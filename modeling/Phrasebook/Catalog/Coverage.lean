import Phrasebook.Catalog.Basic
import Phrasebook.Decimal.Text

/-!
# Coverage

How many texts of a catalog have a translation into a locale, and which part of all that is: a percentage with one
place, rounded from the quotient in double precision.
-/

namespace Phrasebook

/-- How far a catalog is translated into a locale. -/
structure Coverage where
  total : Nat
  translated : Nat
  pending : Nat
  /-- Tenths of a percent. -/
  tenths : Nat
  deriving DecidableEq, Repr, Inhabited

namespace Coverage

open Decimal

/-- A percentage in tenths: the quotient and its hundredfold are rounded to double precision, then the tenths. -/
def tenthsOf (translated total : Nat) : Nat :=
  match (Binary64.ofRatio false translated total).scale 100 with
  | .finite _ m e => let (n, d) := Binary64.ratio m e; roundDiv (n * 10) d
  | _ => 0

/-- The number of entries with a translation into a locale. -/
def translatedIn (c : Catalog) (locale : Locale) : Nat :=
  c.countP fun entry => entry.2.translation locale.code != ""

/-- The coverage of a catalog in a locale. -/
def ofCatalog (c : Catalog) (locale : Locale) : Coverage :=
  let translated := translatedIn c locale
  ⟨c.length, translated, c.length - translated, if c.isEmpty then 0 else tenthsOf translated c.length⟩

def percent (c : Coverage) : Binary64 := .ofRatio false c.tenths 10

end Coverage
end Phrasebook
