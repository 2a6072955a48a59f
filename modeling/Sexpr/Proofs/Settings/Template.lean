import Sexpr.Proofs.Files.Growth
import Sexpr.Proofs.Settings.Precedence
import Sexpr.Proofs.Text.Encoding
import Sexpr.Proofs.Text.Lines
import Sexpr.Proofs.Toml.Headers
import Sexpr.Settings.Template

/-!
What the template says: nothing. It opens the tables of all sections and gives no key a value, so
that a layer of it leaves every profile as it is.
-/

namespace Sexpr

theorem Text.toList_unlines (lines : List String) :
    (unlines lines).toList = Toml.joined (lines.map String.toList) := by
  induction lines with
  | nil => rfl
  | cons line lines ih =>
      have hfeed : "\n".toList = ['\n'] := rfl
      rw [unlines_cons, String.toList_append, String.toList_append, ih, hfeed, List.map_cons,
        Toml.joined, Toml.joined, List.flatMap_cons, List.append_assoc]

namespace Settings

def templateBytes : List UInt8 :=
  template.toUTF8.toList

def templateTable : Entries :=
  [("defaults", .table []), ("parser", .table []), ("display", .table [])]

theorem parse_template (limits : Limits) :
    Toml.parse limits template.toList = .ok templateTable := by
  have hheaders : Toml.headers? (templateLines.map String.toList) =
      some ["defaults", "parser", "display"] := by decide +kernel
  rw [template, Text.toList_unlines]
  exact Toml.parse_joined limits hheaders (by decide)

theorem requests_template : templateTable.requests = [] :=
  rfl

end Settings

namespace Layer

def ofTemplate (source : String) : Layer :=
  ⟨source, Settings.templateTable⟩

theorem ofTemplate_fits (source : String) : (ofTemplate source).Fits := by
  rw [Fits, ofTemplate, Settings.requests_template]
  simp

end Layer

theorem Profile.lay_ofTemplate (profile : Profile) (source : String) :
    profile.lay (.ofTemplate source) = profile := by
  rw [lay, Layer.ofTemplate, merge_profile, Settings.requests_template]
  rfl

end Sexpr
