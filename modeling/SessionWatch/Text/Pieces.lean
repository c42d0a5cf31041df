/-
# Pieces between line feeds

Key definitions: `Bytes.pieces`.
Key theorems: `Bytes.pieces_append`.
-/
import SessionWatch.Text.Utf8

namespace SessionWatch.Bytes

/-- The pieces of a stream between line feeds, the first one behind `acc`, which has the latest
byte first; nothing after the last line feed is no piece. -/
def piecesFrom (acc : Bytes) : Bytes → List Bytes
  | [] => if acc.isEmpty then [] else [acc.reverse]
  | b :: bs => if b = 0x0A then acc.reverse :: piecesFrom [] bs else piecesFrom (b :: acc) bs

/-- The pieces of a stream between line feeds. -/
def pieces (bs : Bytes) : List Bytes := piecesFrom [] bs

theorem piecesFrom_append (line rest : Bytes) (h : 0x0A ∉ line) (acc : Bytes) :
    piecesFrom acc (line ++ 0x0A :: rest) = (acc.reverse ++ line) :: pieces rest := by
  induction line generalizing acc with
  | nil => simp [piecesFrom, pieces]
  | cons b line ih =>
    have hb : b ≠ 0x0A := fun e => h (by simp [e])
    rw [List.cons_append, piecesFrom, if_neg hb, ih (fun m => h (by simp [m]))]
    simp

/-- A line with its line feed is a piece. -/
theorem pieces_append (line rest : Bytes) (h : 0x0A ∉ line) :
    pieces (line ++ 0x0A :: rest) = line :: pieces rest := by
  rw [pieces, piecesFrom_append line rest h, List.reverse_nil, List.nil_append]

end SessionWatch.Bytes
