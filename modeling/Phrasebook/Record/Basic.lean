import Phrasebook.Entries
import Phrasebook.Key
import Phrasebook.Locale.Basic
import Phrasebook.Pseudo

/-!
# Records

A record is one text with its key, its translations and the place where it was found. Its translations are canonical:
every locale has a slot, the slots come in the order of the locales with all others after them by name, and the default
slot is never empty unless the text is.
-/

namespace Phrasebook

/-- One translatable text. -/
structure Record where
  text : String
  key : String
  translations : Entries String String
  context : Context
  /-- Set where the text was carried over from an earlier catalog without being found again. -/
  stale : Option Bool
  deriving DecidableEq, Repr, Inhabited

namespace Record

/-- Slots for other than the supported locales, by name. -/
def otherSlots (given : Entries String String) : Entries String String :=
  (given.filter fun slot => !Locale.codes.contains slot.1).mergeSort fun a b => !decide (b.1 < a.1)

/-- A slot for every locale in canonical order; the default one shows the text where it would be empty. -/
def canonical (text : String) (given : Entries String String) : Entries String String :=
  (Locale.all.map fun l =>
    let value := (given.get? l.code).getD ""
    (l.code, if l == Locale.fallback && value.isEmpty then text else value)) ++ otherSlots given

def make (text key : String) (given : Entries String String) (context : Context) (stale : Option Bool) : Record :=
  ⟨text, key, canonical text given, context, stale⟩

/-- The translation into a locale, empty where there is none. -/
def translation (r : Record) (locale : String) : String := (r.translations.get? locale).getD ""

/-- The record of a text found in a context. -/
def extracted (text : String) (context : Context) : Record :=
  make text (Key.within text context)
    ((Locale.fallback.code, text) :: Locale.human.map (fun l => (l.code, "")) ++
      [(Locale.pseudo.code, Pseudo.render text)])
    context none

end Record
end Phrasebook
