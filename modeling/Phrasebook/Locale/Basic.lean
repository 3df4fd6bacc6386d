/-!
# Locales

The set of supported locales is closed. The default locale shows the text as it was written, the human locales hold
translations, and the pseudo locale is made from the text.
-/

namespace Phrasebook

/-- A supported locale. -/
inductive Locale where
  /-- The locale of the authors, always equal to the text. -/
  | en
  /-- Translated by people. -/
  | ru
  /-- Made from the text to show what was never extracted. -/
  | pseudo
  deriving DecidableEq, Repr, Inhabited

namespace Locale

/-- The name of a locale in catalogs and requests. -/
def code : Locale → String
  | en => "en"
  | ru => "ru"
  | pseudo => "pseudo"

/-- All locales in the order of their slots. -/
def all : List Locale := [en, ru, pseudo]

/-- The names of all locales in the order of their slots. -/
def codes : List String := all.map code

def ofCode? (name : String) : Option Locale := all.find? (·.code == name)

/-- The locale used where none is asked for. -/
def fallback : Locale := en

/-- Whether the values of a locale are made by the program, so that no translation is kept for it. -/
def isGenerated (name : String) : Bool := name == en.code || name == pseudo.code

def human : List Locale := [ru]

theorem mem_all (l : Locale) : l ∈ all := by cases l <;> decide

theorem ofCode?_code (l : Locale) : ofCode? l.code = some l := by cases l <;> decide

end Locale
end Phrasebook
