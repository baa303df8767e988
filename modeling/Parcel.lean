import Parcel.Config.File
import Parcel.Container.Display
import Parcel.Depot
import Parcel.Metrics.Report
import Parcel.Schema.Admission
import Parcel.Proofs.Container.Laziness
import Parcel.Proofs.Container.Refusal
import Parcel.Proofs.Container.Views
import Parcel.Proofs.Delimited.RoundTrip
import Parcel.Proofs.Json.RoundTrip
import Parcel.Proofs.MessagePack.RoundTrip
import Parcel.Proofs.Xml.RoundTrip
import Parcel.Proofs.Delimited.Scanned
import Parcel.Proofs.Delimited.Received
import Parcel.Proofs.Delimited.Reencoding
import Parcel.Proofs.Container.Contents
import Parcel.Proofs.Container.Copy
import Parcel.Proofs.Store.Attempt
import Parcel.Proofs.Store.Update
import Parcel.Proofs.Container.Exchange
import Parcel.Proofs.Number.Widening
import Parcel.Proofs.Schema.Builder
import Parcel.Proofs.Schema.Satisfaction
import Parcel.Proofs.Codec.Detection
import Parcel.Proofs.Container.Labelled
import Parcel.Proofs.Codec.Stability
import Parcel.Proofs.Delimited.Rendering
import Parcel.Proofs.Codec.NestingLimit
import Parcel.Proofs.Codec.Boundaries
import Parcel.Proofs.Container.Undecodable
import Parcel.Proofs.Container.Admission
import Parcel.Proofs.Pool.Accounting
import Parcel.Proofs.Container.Written
import Parcel.Proofs.Delimited.Domain
import Parcel.Proofs.Container.Batch
import Parcel.Proofs.Pool.Independence
import Parcel.Codec.Piecewise
import Parcel.Proofs.Codec.Appending
import Parcel.Proofs.Schema.Report
import Parcel.Proofs.Schema.Anchored
import Parcel.Proofs.Delimited.Literal
import Parcel.Proofs.Codec.Integers
import Parcel.Proofs.Container.Optimistic
import Parcel.Proofs.Metrics.Rank
import Parcel.Proofs.Metrics.Registry
import Parcel.Proofs.Toml.Reader
import Parcel.Proofs.Config.File
import Parcel.Proofs.Codec.Textual
import Parcel.Proofs.Config.Capacity
import Parcel.Proofs.Container.Textual
import Parcel.Proofs.Container.Cutting
