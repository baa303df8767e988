import Parcel.Unicode.Contributory
import Parcel.Unicode.Category

/-!
# Identifiers

The properties that tell what identifiers of computer languages are made of.
-/

namespace Parcel.Unicode

/-- The Pattern_Syntax property. -/
def patternSyntax : CharSet :=
  table
    "21-2F 3A-40 5B-5E 60 7B-7E A1-A7 A9 AB-AC AE B0-B1 B6 BB BF D7 F7 2010-2027 2030-203E
     2041-2053 2055-205E 2190-245F 2500-2775 2794-2BFF 2E00-2E7F 3001-3003 3008-3020 3030
     FD3E-FD3F FE45-FE46"

/-- The Pattern_White_Space property. -/
def patternWhiteSpace : CharSet := table "9-D 20 85 200E-200F 2028-2029"

/-- The ID_Start property. -/
def idStart : CharSet :=
  (letter ∪ letterNumeral ∪ otherIdStart) \ (patternSyntax ∪ patternWhiteSpace)

/-- The ID_Continue property. -/
def idContinue : CharSet :=
  idStart ∪
    ((nonspacingMark ∪ spacingMark ∪ decimalNumeral ∪ connectorPunctuation ∪ otherIdContinue) \
      (patternSyntax ∪ patternWhiteSpace))

/-- Characters that start identifiers and do not remain so under compatibility forms. -/
def unstableStart : CharSet :=
  table "37A E33 EB3 309B-309C FC5E-FC63 FDFA-FDFB FE70-FE7E/2 FF9E-FF9F"

/-- Characters of identifiers that do not remain so under compatibility forms. -/
def unstableContinue : CharSet := table "37A 309B-309C FC5E-FC63 FDFA-FDFB FE70-FE7E/2"

/-- The XID_Start property. -/
def xidStart : CharSet := idStart \ unstableStart

/-- The XID_Continue property. -/
def xidContinue : CharSet := idContinue \ unstableContinue

/-- The ID_Compat_Math_Start property. -/
def idCompatMathStart : CharSet :=
  table "2202 2207 221E 1D6C1 1D6DB 1D6FB 1D715 1D735 1D74F 1D76F 1D789 1D7A9 1D7C3"

/-- The ID_Compat_Math_Continue property. -/
def idCompatMathContinue : CharSet :=
  table
    "B2-B3 B9 2070 2074-207E 2080-208E 2202 2207 221E 1D6C1 1D6DB 1D6FB 1D715 1D735 1D74F 1D76F
     1D789 1D7A9 1D7C3"

end Parcel.Unicode
