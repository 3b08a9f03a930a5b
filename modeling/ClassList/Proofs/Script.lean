import Mathlib.Data.Bool.AllAny
import ClassList.ExternalSorter
import ClassList.Proofs.Json.Literal
import ClassList.Proofs.Replacement

/-! The script of the external sorter. The name of the package is data in it: whatever the name is, the
script is its fixed text with one literal in it. -/

namespace ClassList.ExternalSorter

theorem script_eq (sorter : ExternalSorter) :
    sorter.script = scriptHead ++ Json.literal sorter.moduleName ++ scriptTail := by
  have hhead : ∀ c ∈ scriptHead, c ≠ '_' := List.all_iff_forall_prop.mp (by decide +kernel)
  have htail : ∀ c ∈ scriptTail, c ≠ '_' := List.all_iff_forall_prop.mp (by decide +kernel)
  have hmarker : scriptMarker = '_' :: "_MODULE__".toList := rfl
  have hne : scriptMarker ≠ [] := List.cons_ne_nil _ _
  calc
    sorter.script = Text.replaceAll scriptMarker (Json.literal sorter.moduleName)
        (scriptHead ++ (scriptMarker ++ scriptTail)) := by
      rw [script, scriptTemplate, List.append_assoc]
    _ = scriptHead ++ Text.replaceAll scriptMarker (Json.literal sorter.moduleName)
        (scriptMarker ++ scriptTail) := by
      rw [hmarker, Text.replaceAll_append_of_forall_ne hhead]
    _ = scriptHead ++ (Json.literal sorter.moduleName ++
        Text.replaceAll scriptMarker (Json.literal sorter.moduleName) scriptTail) := by
      rw [Text.replaceAll_append_self hne]
    _ = scriptHead ++ Json.literal sorter.moduleName ++ scriptTail := by
      rw [hmarker, Text.replaceAll_of_forall_ne htail, List.append_assoc]

/-- Whatever the name of the package is, the script is the text before the marker, one literal and the text
after the marker. The literal is printable ASCII between two quotes, of which the second is the first quote
that is not escaped, and its value is the name. -/
theorem script_quotes_moduleName (sorter : ExternalSorter) :
    ∃ body : Text,
      sorter.script = scriptHead ++ ('"' :: body ++ ['"']) ++ scriptTail ∧
      (∀ c ∈ body, ' ' ≤ c ∧ c ≤ '~') ∧
      (∀ rest, (Literal.scan? (body ++ '"' :: rest)).map Prod.snd = some rest) ∧
      Json.read? ('"' :: body ++ ['"']) = some (.text sorter.moduleName) ∧
      ∀ fuel rest, Json.readValue? (fuel + 1) ('"' :: body ++ ['"'] ++ rest) =
        some (.text sorter.moduleName, rest) := by
  refine ⟨sorter.moduleName.flatMap Json.literalChar, sorter.script_eq, fun d hd => ?_,
    Json.snd_scan?_flatMap_literalChar _, Json.read?_literal _, Json.readValue?_literal _⟩
  obtain ⟨c, -, hd⟩ := List.mem_flatMap.mp hd
  exact (Json.writes_literalChar c).isPrintable d hd

/-- A name cannot end its literal, and the marker in it is not replaced. -/
example : Json.literal "__MODULE__\")\n😀" = "\"__MODULE__\\\")\\n\\ud83d\\ude00\"".toList := by
  decide +kernel

end ClassList.ExternalSorter
