import FilterLang.Proofs.Text.Trim
import FilterLang.Proofs.Uuid.Writing
import FilterLang.Uuid.Reading

/-!
Identifiers are read back from their texts.
-/

namespace FilterLang.Uuid

variable {digits : List (Fin 16)} {n : Nat} {rest : Text}

@[simp] theorem hexValue?_digitChar (d : Fin 16) : Text.hexValue? (Nat.digitChar d.val) = some d := by
  revert d
  decide

end FilterLang.Uuid
