import Gamebook.Failure

/-! # Reading lines

A player's answers come as lines. Bytes arrive in a feed; the reader takes them from there in
portions, and gives them out line by line, without the line end. What stands after the last line end
is a line of its own, unless it is empty. A read that is called off takes nothing away. The player may
be prompted before each read.
-/

namespace Gamebook

/-- Bytes that have arrived, and what comes after them. -/
structure Feed where
  waiting : Text := []
  /-- Why no more bytes come. -/
  ending : Failure := [.endOfInput]
  deriving DecidableEq, Repr, Inhabited

/-- Why no more bytes come from a feed that somebody is still writing to. -/
def Feed.unfinished : Failure := [.said "more input is awaited"]

/-- A reader of lines. -/
structure LineReader where
  /-- The bytes that were taken from the feed and not given out yet. -/
  buffer : Text := []
  /-- What is written before each read. -/
  prompt : Text := []
  deriving DecidableEq, Repr, Inhabited

/-- What a read gives. Bytes before a failure come with it. -/
structure ReadLine where
  line : Text
  failure : Option Failure := none
  /-- What was written before the read. -/
  prompt : Text := []
  deriving DecidableEq, Repr, Inhabited

namespace LineReader

/-- How many bytes a reader holds at most. -/
def capacity : Nat := 4096

/-- The byte that ends a line. -/
def lineEnd : UInt8 := 0x0A

/-- What stands up to the first line end, with it, and what comes after. -/
def cutLine : Text → Option (Text × Text)
  | [] => none
  | b :: rest =>
    if b = lineEnd then some ([b], rest)
    else (cutLine rest).map fun (line, rest) => (b :: line, rest)

/-- A line without the bytes that end it. -/
def chop (line : Text) : Text :=
  (line.reverse.dropWhile fun b => b = 0x0A || b = 0x0D).reverse

/-- Takes bytes until a line is complete: what was found, whether it has a line end, what is left in
    the buffer, and what is left in the feed. -/
def fill (found buffer waiting : Text) : Text × Bool × Text × Text :=
  match cutLine buffer with
  | some (line, rest) => (found ++ line, true, rest, waiting)
  | none =>
    if capacity ≤ buffer.length then fill (found ++ buffer) [] waiting
    else
      match waiting with
      | [] => (found ++ buffer, false, [], [])
      | b :: more =>
        fill found (buffer ++ (b :: more).take (capacity - buffer.length))
          ((b :: more).drop (capacity - buffer.length))
termination_by (waiting.length, buffer.length)
decreasing_by
  · exact Prod.Lex.right _ (by simp only [List.length_nil, capacity] at *; omega)
  · exact Prod.Lex.left _ _ (by simp only [List.length_drop, List.length_cons] at *; omega)

/-- What taking bytes came to. -/
structure Fetched where
  /-- The bytes of a line, with what ends it. -/
  found : Text
  failure : Option Failure
  deriving DecidableEq, Repr, Inhabited

/-- Takes the bytes of a line. Bytes before the end of the input are a line too. -/
def fetch (buffer : Text) (feed : Feed) : Fetched × Text × Feed :=
  let (found, complete, buffer, waiting) := fill [] buffer feed.waiting
  let atEnd := feed.ending = [.endOfInput]
  let failure := if complete ∨ (atEnd ∧ found ≠ []) then none else some feed.ending
  ({ found, failure }, buffer, { feed with waiting })

/-- Reads a line, unless the read is called off. -/
def read (halted : Option Failure) (r : LineReader) (feed : Feed) : ReadLine × LineReader × Feed :=
  match halted with
  | some cause => ({ line := [], failure := some cause, prompt := r.prompt }, r, feed)
  | none =>
    let (got, buffer, feed) := fetch r.buffer feed
    ({ line := chop got.found, failure := got.failure, prompt := r.prompt }, { r with buffer }, feed)

end LineReader

end Gamebook
