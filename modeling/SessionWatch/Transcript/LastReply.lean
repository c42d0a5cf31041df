/-
# The last reply of a transcript

A transcript is read line by line. Lines that are not JSON, and lines that are
no entry, are passed over; the last reply counts only if no user entry follows
it. A line that is not text cannot be read at all.

Key definitions: `Transcript.lines?`, `Transcript.lastReply`,
`Transcript.lastReplyBackward`, `Transcript.read`.
Key theorems: `Transcript.lastReply_eq_backward`.
-/
import SessionWatch.Json.Reader
import SessionWatch.Text.Blank
import SessionWatch.Text.Pieces
import SessionWatch.Text.Tail
import SessionWatch.Transcript.Entry

namespace SessionWatch.Transcript

/-- The lines of a content, if all of them are text. -/
def lines? (content : Bytes) : Option (List String) := (Bytes.pieces content).mapM Text.ofUtf8?

/-- The entry that a line is, if it is JSON and an entry. -/
def Entry.ofLine? (f : Format) (line : String) : Option Entry :=
  (Json.parse? (Text.utf8 (Text.trim line))).bind (ofJson? f)

/-- What is known of the current turn after an entry: its latest reply, if there is one. -/
def follow (_last : Option String) : Entry → Option String
  | .user => none
  | .reply text => some text

/-- The last reply that no user entry follows. -/
def lastReply (f : Format) (lines : List String) : Option String :=
  (lines.filterMap (Entry.ofLine? f)).foldl follow none

/-- The last reply, searched from the end. -/
def lastReplyBackward (f : Format) (lines : List String) : Option String :=
  match lines.reverse.findSome? (Entry.ofLine? f) with
  | some (.reply text) => some text
  | _ => none

/-- Reading forward and searching backward agree. -/
theorem lastReply_eq_backward (f : Format) (lines : List String) :
    lastReply f lines = lastReplyBackward f lines := by
  have step (es : List Entry) : es.foldl follow none
      = match es.getLast? with | some (.reply text) => some text | _ => none := by
    rcases List.eq_nil_or_concat es with rfl | ⟨es, e, rfl⟩
    · rfl
    · cases e <;> simp [follow]
  rw [lastReply, lastReplyBackward, step, List.getLast?_filterMap]

/-- The end of the last reply in a content, of at most `max` characters; `none` if a line
of the content is not text. -/
def read (f : Format) (max : Nat) (content : Bytes) : Option (Option String) :=
  (lines? content).map fun lines => (lastReply f lines).map (Text.tail · max)

end SessionWatch.Transcript
