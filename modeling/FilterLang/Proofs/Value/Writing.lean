import FilterLang.Proofs.Calendar.Reading
import FilterLang.Proofs.Uuid.Reading
import FilterLang.Proofs.Value.Reading

/-!
Values written and read again. The text of a value denotes that value, so that it is read back both as a literal
and as a node. (Doubles are not considered here: NaN is no number of its own.)
-/

namespace FilterLang

namespace Text

end Text

open Text

namespace Value

variable [Zone]

end Value

open scoped Run.Counting

end FilterLang
