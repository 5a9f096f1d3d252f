import SplitTest.Json.Document
import SplitTest.Proofs.Outcome

/-! JSON documents in bytes of ASCII characters: their text is those characters. -/
namespace SplitTest

variable {c : Char} {cs : List Char}

end SplitTest
