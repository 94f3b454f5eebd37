import DocFilter.Text.Ranges

/-!
# Scripts

A script is a writing system.  Every assigned code point belongs to one script, where the code
points shared by many belong to two scripts of their own.  The extension of a script holds the
code points that it is written with, shared ones included.
-/

namespace DocFilter
namespace Text

/-- A script with its names, the short one first.  Names are in small letters and without
separators. -/
structure Script where
  names : List String
  /-- The code points of the script. -/
  members : Ranges
  /-- What the extension of the script has besides. -/
  gained : Ranges
  /-- What the extension of the script lacks. -/
  lost : Ranges

/-- The code points that a script is written with. -/
def Script.extension (s : Script) : Ranges :=
  (s.members.union s.gained).diff s.lost

end Text
end DocFilter
