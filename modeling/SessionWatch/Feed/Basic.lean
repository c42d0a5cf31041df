/-
# The feed

Observers get the lines of the feed through mailboxes of a bounded size.
Nothing waits for an observer: a mailbox that is full when a line comes, or
that nobody holds any more, is taken off the list, and no line reaches it from
then on. What it has already got can still be taken out.

Key definitions: `Mailbox`, `Feed`, `Mailbox.offer`, `Feed.subscribe?`,
`Feed.publish`, `Feed.sendTo`, `Feed.remove`, `Feed.take`, `Feed.drain`,
`Feed.drop`.
-/

namespace SessionWatch

/-- The lines on their way to an observer. -/
structure Mailbox where
  id : Nat
  /-- The lines that are not taken out yet, the oldest first. -/
  queue : List String
  /-- Somebody can take lines out. -/
  held : Bool := true
  /-- The mailbox is on the list of those that get lines. -/
  listed : Bool := true
  deriving DecidableEq

namespace Mailbox

/-- Whether a line can be put in. -/
def hasRoom (capacity : Nat) (m : Mailbox) : Bool := m.held && m.queue.length < capacity

/-- Puts a line in, or takes the mailbox off the list. -/
def offer (capacity : Nat) (line : String) (m : Mailbox) : Mailbox :=
  if m.listed then
    if m.hasRoom capacity then { m with queue := m.queue ++ [line] } else { m with listed := false }
  else m

end Mailbox

/-- The mailboxes of all observers there have been, in the order of their ids. -/
structure Feed where
  /-- How many lines a mailbox holds. -/
  capacity : Nat
  /-- How many mailboxes may be on the list. -/
  limit : Nat
  lastId : Nat := 0
  boxes : List Mailbox := []
  deriving DecidableEq

namespace Feed

/-- A feed without observers; both bounds are at least one. -/
def new (capacity limit : Nat) : Feed := { capacity := max capacity 1, limit := max limit 1 }

/-- How many observers there are. -/
def count (f : Feed) : Nat := f.boxes.countP (·.listed)

/-- The mailbox of an observer. -/
def find? (f : Feed) (id : Nat) : Option Mailbox := f.boxes.find? fun m => m.id = id

/-- Changes the mailbox with an id. -/
def modify (f : Feed) (id : Nat) (g : Mailbox → Mailbox) : Feed :=
  { f with boxes := f.boxes.map fun m => if m.id = id then g m else m }

/-- A new observer, whose first line is `line`; nothing if there are too many already. -/
def subscribe? (f : Feed) (line : String) : Option (Feed × Nat) :=
  if f.limit ≤ f.count then none
  else
    let id := f.lastId + 1
    some ({ f with lastId := id, boxes := f.boxes ++ [{ id := id, queue := [line] }] }, id)

/-- Offers a line to every observer. -/
def publish (f : Feed) (line : String) : Feed :=
  { f with boxes := f.boxes.map (·.offer f.capacity line) }

/-- Offers a line to one observer; whether it got the line is the answer. -/
def sendTo (f : Feed) (id : Nat) (line : String) : Feed × Bool :=
  (f.modify id (·.offer f.capacity line),
    (f.find? id).any fun m => m.listed && m.hasRoom f.capacity)

/-- Takes an observer off the list; whether it was there is the answer. -/
def remove (f : Feed) (id : Nat) : Feed × Bool :=
  (f.modify id ({ · with listed := false }), (f.find? id).any (·.listed))

/-- Takes the oldest lines out of a mailbox, no more than `count` of them. -/
def take (f : Feed) (id count : Nat) : Feed × List String :=
  (f.modify id (fun m => { m with queue := m.queue.drop count }),
    (f.find? id).elim [] (·.queue.take count))

/-- Takes everything out of a mailbox. -/
def drain (f : Feed) (id : Nat) : Feed × List String :=
  (f.modify id ({ · with queue := [] }), (f.find? id).elim [] (·.queue))

/-- Lets go of a mailbox, with everything in it; whether it was held is the answer. -/
def drop (f : Feed) (id : Nat) : Feed × Bool :=
  (f.modify id ({ · with held := false, queue := [] }), (f.find? id).any (·.held))

end Feed

end SessionWatch
