import DocFilter.Text.Script.AToB
import DocFilter.Text.Script.CToF
import DocFilter.Text.Script.GToK
import DocFilter.Text.Script.LToM
import DocFilter.Text.Script.NToP
import DocFilter.Text.Script.RToS
import DocFilter.Text.Script.TToZ

/-!
# Scripts by name
-/

namespace DocFilter
namespace Text
namespace Script

/-- All scripts. -/
def all : List (List Script) :=
  [scriptsAToB, scriptsCToF, scriptsGToK, scriptsLToM, scriptsNToP, scriptsRToS, scriptsTToZ]

/-- The script with a name. -/
def ofName? (name : String) : Option Script :=
  all.findSome? fun scripts => scripts.find? fun s => s.names.contains name

end Script
end Text
end DocFilter
