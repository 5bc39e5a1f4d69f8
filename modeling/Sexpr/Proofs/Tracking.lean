import Sexpr.Proofs.Columns

/-! # What a cursor hands out

A cursor can be asked for the next character, and at any time for an error somewhere in
its text. It hands out the characters of the text one after the other, and nothing
anymore behind the last one, whatever else it is asked for in between. The byte index is
always at the boundary between what it has handed out and what it has not, and the
position is that of the character handed out last.
-/

namespace Sexpr

namespace Pos

def Before (p q : Pos) : Prop :=
  p.line < q.line ∨ p.line = q.line ∧ p.col < q.col

theorem Before.trans {p q r : Pos} (h : p.Before q) (h' : q.Before r) : p.Before r := by
  unfold Before at *
  omega

theorem before_after (p : Pos) (c : Char) : p.Before (p.after c) := by
  unfold after
  split
  · exact .inl (Nat.lt_succ_self _)
  · exact .inr ⟨rfl, Nat.lt_succ_self _⟩

theorem before_afterAll {cs : List Char} (nonempty : cs ≠ []) (p : Pos) :
    p.Before (p.afterAll cs) := by
  induction cs generalizing p with
  | nil => exact absurd rfl nonempty
  | cons c cs ih =>
      by_cases single : cs = []
      · rw [single]
        exact before_after p c
      · exact (before_after p c).trans (ih single (p.after c))

end Pos

inductive Request where
  | next
  | errorHere (fault : Fault) (markSize : Nat)
  | errorAt (fault : Fault) (line col : Option Int) (markSize : Nat)
  | errorAtPos (fault : Fault) (pos : Pos) (markSize : Nat)
  deriving DecidableEq

inductive Reply where
  | char (c : Option Char)
  | error (e : SyntaxError)

def Reply.char? : Reply → Option (Option Char)
  | .char c => some c
  | .error _ => none

namespace Cursor

def answer (cur : Cursor) : Request → Reply × Cursor
  | .next => (.char cur.next.1, cur.next.2)
  | .errorHere fault markSize => (.error (cur.errorHere fault markSize), cur)
  | .errorAt fault line col markSize => (.error (cur.errorAt fault line col markSize), cur)
  | .errorAtPos fault pos markSize => (.error (cur.errorAtPos fault pos markSize), cur)

/-- The replies to requests that are made one after the other, and where they leave the
    cursor. -/
def answerAll (cur : Cursor) : List Request → List Reply × Cursor
  | [] => ([], cur)
  | request :: requests =>
      let (reply, cur) := cur.answer request
      let (replies, cur) := cur.answerAll requests
      (reply :: replies, cur)

theorem answerAll_next (cur : Cursor) (requests : List Request) :
    cur.answerAll (.next :: requests) =
      (.char cur.next.1 :: (cur.next.2.answerAll requests).1, (cur.next.2.answerAll requests).2) :=
  rfl

theorem answerAll_error {request : Request} (other : request ≠ .next) (cur : Cursor)
    (requests : List Request) :
    ∃ e, cur.answerAll (request :: requests) =
      (.error e :: (cur.answerAll requests).1, (cur.answerAll requests).2) := by
  cases request with
  | next => exact absurd rfl other
  | errorHere | errorAt | errorAtPos => exact ⟨_, rfl⟩

/-- Only the requests for a character count. -/
theorem answerAll_eq (cur : Cursor) (requests : List Request) :
    (cur.answerAll requests).1.filterMap Reply.char? =
        (List.range (requests.count .next)).map (cur.rest[·]?) ∧
      (cur.answerAll requests).2 = cur.advance (requests.count .next) := by
  induction requests generalizing cur with
  | nil => exact ⟨rfl, rfl⟩
  | cons request requests ih =>
      by_cases next : request = .next
      · subst next
        obtain ⟨handed, stop⟩ := ih cur.next.2
        rw [answerAll_next, List.count_cons_self]
        constructor
        · simp [Reply.char?, handed, List.range_succ_eq_map, next_fst, List.head?_eq_getElem?]
        · exact stop
      · obtain ⟨e, answered⟩ := answerAll_error next cur requests
        rw [answered, List.count_cons_of_ne next]
        exact ih cur

@[simp] theorem offset_next (cur : Cursor) :
    cur.next.2.offset = cur.offset + (String.ofList (cur.rest.take 1)).utf8ByteSize := by
  unfold next
  split <;> simp_all [String.ofList_cons]

theorem offset_advance (n : Nat) (cur : Cursor) :
    (cur.advance n).offset = cur.offset + (String.ofList (cur.rest.take n)).utf8ByteSize := by
  induction n generalizing cur with
  | zero => simp [advance]
  | succ n ih =>
      have handed : cur.rest.take (n + 1) = cur.rest.take 1 ++ cur.rest.tail.take n := by
        cases cur.rest <;> simp
      rw [advance, ih, offset_next, rest_next, handed, String.ofList_append,
        String.utf8ByteSize_append, Nat.add_assoc]

theorem exists_index (text : String) (fileName : Option String) (n : Nat) :
    ∃ index : text.Pos, index.offset.byteIdx = ((ofText text fileName).advance n).offset ∧
      (text.sliceFrom index).copy = String.ofList (text.toList.drop n) := by
  have halves : text = String.ofList (text.toList.take n) ++ String.ofList (text.toList.drop n) := by
    rw [← String.ofList_append, List.take_append_drop, String.ofList_toList]
  let cut : String.Pos.Raw := (String.ofList (text.toList.take n)).rawEndPos
  have valid : cut.IsValid text :=
    String.Pos.Raw.isValid_iff_exists_append.mpr ⟨_, _, halves, rfl⟩
  let index : text.Pos := ⟨cut, valid⟩
  have splits : index.Splits (String.ofList (text.toList.take n))
      (String.ofList (text.toList.drop n)) := ⟨halves, rfl⟩
  refine ⟨index, ?_, splits.copy_sliceFrom_eq⟩
  rw [offset_advance, rest_ofText]
  exact (Nat.zero_add cut.byteIdx).symm

theorem pos_advance_ofText (text : String) (fileName : Option String) (n : Nat) :
    ((ofText text fileName).advance n).pos = Pos.start.afterAll (text.toList.take (n - 1)) := by
  cases n with
  | zero => rfl
  | succ n => exact pos_advance_succ n _

theorem pos_before_advance {text : String} {m n : Nat} (first : 0 < m) (later : m < n)
    (inside : n ≤ text.length) (fileName : Option String) :
    ((ofText text fileName).advance m).pos.Before ((ofText text fileName).advance n).pos := by
  have further : n - 1 = m - 1 + (n - m) := by omega
  rw [pos_advance_ofText, pos_advance_ofText, further, List.take_add, Pos.afterAll_append]
  apply Pos.before_afterAll
  rw [← List.length_pos_iff, List.length_take, List.length_drop, String.length_toList]
  omega

/-- Whatever a cursor is asked for, it gives the characters of its text in their order to
    those who ask for a character, and nothing anymore when there are no more. Its index
    is a place where the text can be cut, with the next character behind it. Its position
    is found behind all characters before the one handed out last, and it gets later with
    every character. -/
theorem answerAll_ofText (text : String) (fileName : Option String) (requests : List Request) :
    let asked := requests.count .next
    let answered := (ofText text fileName).answerAll requests
    let cur := answered.2
    let before := text.toList.take (asked - 1)
    answered.1.filterMap Reply.char? = (List.range asked).map (text.toList[·]?) ∧
      cur.source = text ∧
      (∃ index : text.Pos, index.offset.byteIdx = cur.offset ∧
        (text.sliceFrom index).copy = String.ofList (text.toList.drop asked) ∧
        (text.sliceFrom index).front? = cur.next.1) ∧
      cur.pos = ⟨before.count '\n', (SourceLines.openLine before).length⟩ ∧
      ∀ more, 0 < asked → 0 < more.count .next → asked + more.count .next ≤ text.length →
        cur.pos.Before ((ofText text fileName).answerAll (requests ++ more)).2.pos := by
  intro asked answered cur before
  obtain ⟨handed, stop⟩ := answerAll_eq (ofText text fileName) requests
  have stop : cur = (ofText text fileName).advance asked := stop
  refine ⟨handed, by rw [stop, source_advance, source_ofText], ?_, ?_, ?_⟩
  · obtain ⟨index, offset, behind⟩ := exists_index text fileName asked
    refine ⟨index, by rw [stop, offset], behind, ?_⟩
    rw [String.Slice.front?_eq, behind, String.toList_ofList, stop, next_fst, rest_advance,
      rest_ofText]
  · rw [stop, ← SourceLines.afterAll_start]
    exact pos_advance_ofText text fileName asked
  · intro more first further inside
    rw [(answerAll_eq _ _).2, stop, List.count_append]
    exact pos_before_advance first (Nat.lt_add_of_pos_right further) inside fileName

end Cursor

end Sexpr
