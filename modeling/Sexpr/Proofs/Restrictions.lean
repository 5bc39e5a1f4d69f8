import Sexpr.Proofs.Acceptance

/-! # Settings only restrict

Under looser settings a reader does everything that it does under tighter ones, and
goes on where only these refuse a character. So a text that is read under the tighter
settings says the same under the looser ones, and a fault that is not a matter of
settings is found by both.
-/

namespace Sexpr

structure Settings.Loosens (loose tight : Settings) : Prop where
  depth : ∀ limit, loose.maxDepth = some limit →
    ∃ lower, tight.maxDepth = some lower ∧ lower ≤ limit
  escapes : loose.strictEscapes = true → tight.strictEscapes = true

/-- The fault is one that either settings find: it is not about a limit, and about an
    escape only where both treat escapes alike. -/
structure Fault.Shared (loose tight : Settings) (fault : Fault) : Prop where
  depth : ∀ limit, fault ≠ .nestingTooDeep limit
  escapes : ∀ c, fault = .invalidEscapedChar c → loose.strictEscapes = tight.strictEscapes

theorem Settings.lenient_loosens (settings : Settings) : Settings.lenient.Loosens settings :=
  ⟨by simp [Settings.lenient], by simp [Settings.lenient]⟩

variable {loose tight : Settings}

namespace Reader

theorem Step.loosen (h : loose.Loosens tight) {r r' : Reader} {c : Char}
    (step : Step tight r c r') : Step loose r c r' := by
  cases step with
  | letter plain => exact .letter plain
  | blank blank ended => exact .blank blank ended
  | semicolon ended => exact .semicolon ended
  | quote ended => exact .quote ended
  | opened ended room =>
      refine .opened ended ?_
      intro limit limited
      obtain ⟨lower, limited', le⟩ := h.depth limit limited
      exact Nat.lt_of_lt_of_le (room lower limited') le
  | closed ended => exact .closed ended
  | commented line => exact .commented line
  | commentEnd => exact .commentEnd
  | plain quote backslash => exact .plain quote backslash
  | backslash => exact .backslash
  | literalEnd => exact .literalEnd
  | escaped meaning => exact .escaped meaning
  | kept lenient meaning =>
      refine .kept ?_ meaning
      cases strict : loose.strictEscapes with
      | false => rfl
      | true => rw [h.escapes strict] at lenient; cases lenient

theorem Refusal.loosen {r : Reader} {c : Char} {fault : Fault} (shared : fault.Shared loose tight)
    (refusal : Refusal tight r c fault) : Refusal loose r c fault := by
  cases refusal with
  | malformed delimiter nonempty value => exact .malformed delimiter nonempty value
  | tooDeep => exact absurd rfl (shared.depth _)
  | unopened ended => exact .unopened ended
  | escape strict meaning => exact .escape ((shared.escapes _ rfl).trans strict) meaning

theorem run_loosen (h : loose.Loosens tight) {r r' : Reader} {text : List Char}
    (run : r.run tight text = .ok r') : r.run loose text = .ok r' := by
  have step : ∀ {r s : Reader} {c : Char} {r' : Reader}, r = s → Step tight r c r' →
      ∃ s', Step loose s c s' ∧ r' = s' := by
    rintro r _ c r' rfl step
    exact ⟨r', step.loosen h, rfl⟩
  obtain ⟨_, run', rfl⟩ := run_follows Eq step run rfl
  exact run'

theorem Refusal.maxDepth_eq {settings : Settings} {r : Reader} {c : Char} {limit : Nat}
    (refusal : Refusal settings r c (.nestingTooDeep limit)) :
    settings.maxDepth = some limit := by
  cases refusal with
  | tooDeep _ limited => exact limited

end Reader

namespace Cursor

theorem Outcome.loosen (h : loose.Loosens tight) {cur stop : Cursor}
    {result : Except SyntaxError Tree} (outcome : Outcome tight cur result stop)
    (shared : ∀ e, result = .error e → e.fault.Shared loose tight) :
    Outcome loose cur result stop := by
  cases outcome with
  | finished run tree => exact .finished (Reader.run_loosen h run) tree
  | ended run early => exact .ended (Reader.run_loosen h run) early
  | refused split run refusal =>
      exact .refused split (Reader.run_loosen h run) (refusal.loosen (shared _ rfl))

/-- Parsing ends the same way under looser settings, unless it ends with a fault that
    these do not find. -/
theorem parse_loosen (h : loose.Loosens tight) {cur : Cursor}
    (shared : ∀ e, (cur.parse tight).1 = .error e → e.fault.Shared loose tight) :
    cur.parse loose = cur.parse tight := by
  obtain ⟨result, stop, parsed, outcome⟩ := parse_outcome tight cur
  rw [parsed] at shared ⊢
  exact (outcome.loosen h shared).parse_eq

theorem maxDepth_of_error {settings : Settings} {cur : Cursor} {e : SyntaxError} {limit : Nat}
    (failed : (cur.parse settings).1 = .error e) (deep : e.fault = .nestingTooDeep limit) :
    settings.maxDepth = some limit := by
  obtain ⟨read, c, rest, -, ⟨r, -, fed⟩, -⟩ := stop_of_error failed (by rw [deep]; rfl)
  rw [deep, Reader.feed_eq_error_iff] at fed
  exact fed.maxDepth_eq

end Cursor

theorem parseWith_loosen (h : loose.Loosens tight) {text : String} {name : Option String}
    (shared : ∀ e, parseWith tight (.text text) name = .error (.syntactic e) →
      e.fault.Shared loose tight) :
    parseWith loose (.text text) name = parseWith tight (.text text) name := by
  rw [parseWith_text, parseWith_text, Cursor.parse_loosen h]
  intro e failed
  exact shared e (parseWith_text_eq_error_iff.mpr failed)

theorem parseWith_loosen_ok (h : loose.Loosens tight) {text : String} {name : Option String}
    {v : Tree} (read : parseWith tight (.text text) name = .ok v) :
    parseWith loose (.text text) name = .ok v := by
  rw [parseWith_loosen h, read]
  intro e failed
  rw [read] at failed
  cases failed

theorem parseWith_loosen_error (h : loose.Loosens tight) {text : String} {name : Option String}
    {e : SyntaxError} (failed : parseWith tight (.text text) name = .error (.syntactic e))
    (shared : e.fault.Shared loose tight) :
    parseWith loose (.text text) name = .error (.syntactic e) := by
  rw [parseWith_loosen h, failed]
  intro e' failed'
  rw [failed] at failed'
  cases failed'
  exact shared

/-! ## Limits -/

theorem nestingAll_le_of_ok {settings : Settings} {text : String} {name : Option String} {v : Tree}
    {n : Nat} (read : parseWith settings (.text text) name = .ok v)
    (limited : settings.maxDepth = some n) :
    ∃ trees, v = .list trees ∧ Tree.nestingAll trees ≤ n := by
  rw [parseWith_text_eq_ok_iff, Reader.reads_iff] at read
  obtain ⟨trees, rfl, -, room⟩ := read
  exact ⟨trees, rfl, room n limited⟩

variable {text : String} {name : Option String} {trees : List Tree} {n : Nat}

theorem parseWith_limited_of_le
    (read : parseWith .lenient (.text text) name = .ok (.list trees))
    (room : Tree.nestingAll trees ≤ n) :
    parseWith ⟨some n, false⟩ (.text text) name = .ok (.list trees) := by
  rw [parseWith_text_eq_ok_iff, Reader.reads_iff] at read ⊢
  obtain ⟨_, same, forest, -⟩ := read
  obtain rfl := Tree.list.inj same
  refine ⟨trees, rfl, forest, ?_⟩
  intro limit limited
  obtain rfl := Option.some.inj limited
  exact room

theorem parseWith_limited_or (text : String) (name : Option String) (n : Nat) (strict : Bool) :
    parseWith ⟨some n, strict⟩ (.text text) name = parseWith ⟨none, strict⟩ (.text text) name ∨
      ∃ e, parseWith ⟨some n, strict⟩ (.text text) name = .error (.syntactic e) ∧
        e.fault = .nestingTooDeep n := by
  by_cases deep : ∃ e, parseWith ⟨some n, strict⟩ (.text text) name = .error (.syntactic e) ∧
      e.fault = .nestingTooDeep n
  · exact .inr deep
  · -- With escapes treated alike, any other fault is one that is found without a limit too.
    have loosens : Settings.Loosens ⟨none, strict⟩ ⟨some n, strict⟩ := ⟨by simp, id⟩
    refine .inl (parseWith_loosen loosens ?_).symm
    intro e failed
    refine ⟨?_, fun _ _ => rfl⟩
    intro limit tooDeep
    have located := parseWith_text_eq_error_iff.mp failed
    obtain rfl := Option.some.inj (Cursor.maxDepth_of_error located tooDeep)
    exact deep ⟨e, failed, tooDeep⟩

theorem parseWith_limited_of_lt {strict : Bool}
    (read : parseWith ⟨none, strict⟩ (.text text) name = .ok (.list trees))
    (deep : n < Tree.nestingAll trees) :
    ∃ e, parseWith ⟨some n, strict⟩ (.text text) name = .error (.syntactic e) ∧
      e.fault = .nestingTooDeep n := by
  rcases parseWith_limited_or text name n strict with same | refused
  · obtain ⟨within, list, room⟩ := nestingAll_le_of_ok (same.trans read) rfl
    obtain rfl := Tree.list.inj list
    exact absurd deep (Nat.not_lt_of_le room)
  · exact refused

/-! ## Escapes -/

variable {depth : Option Nat}

theorem Reader.Refusal.keepEscapes {r : Reader} {c : Char} {fault : Fault}
    (refusal : Refusal ⟨depth, true⟩ r c fault) (other : ∀ c, fault ≠ .invalidEscapedChar c) :
    Refusal ⟨depth, false⟩ r c fault := by
  cases refusal with
  | malformed delimiter nonempty value => exact .malformed delimiter nonempty value
  | tooDeep ended limited full => exact .tooDeep ended limited full
  | unopened ended => exact .unopened ended
  | escape => exact absurd rfl (other _)

theorem Cursor.parse_keepEscapes {cur : Cursor}
    (other : ∀ e, (cur.parse ⟨depth, true⟩).1 = .error e → ∀ c, e.fault ≠ .invalidEscapedChar c) :
    cur.parse ⟨depth, false⟩ = cur.parse ⟨depth, true⟩ := by
  have loosens : Settings.Loosens ⟨depth, false⟩ ⟨depth, true⟩ :=
    ⟨fun limit limited => ⟨limit, limited, Nat.le_refl limit⟩, by simp⟩
  obtain ⟨result, stop, parsed, outcome⟩ := parse_outcome ⟨depth, true⟩ cur
  rw [parsed] at other ⊢
  apply Outcome.parse_eq
  cases outcome with
  | finished run tree => exact .finished (Reader.run_loosen loosens run) tree
  | ended run early => exact .ended (Reader.run_loosen loosens run) early
  | refused split run refusal =>
      exact .refused split (Reader.run_loosen loosens run) (refusal.keepEscapes (other _ rfl))

/-- Where every escape has a meaning, it makes no difference to keep the others. -/
theorem parseWith_keepEscapes {v : Tree}
    (read : parseWith ⟨none, true⟩ (.text text) name = .ok v) (depth : Option Nat) :
    parseWith ⟨depth, false⟩ (.text text) name = parseWith ⟨depth, true⟩ (.text text) name := by
  rw [parseWith_text, parseWith_text, Cursor.parse_keepEscapes]
  intro e failed c unknown
  have loosens : Settings.Loosens ⟨none, true⟩ ⟨depth, true⟩ := ⟨by simp, id⟩
  have shared : e.fault.Shared ⟨none, true⟩ ⟨depth, true⟩ := ⟨by simp [unknown], fun _ _ => rfl⟩
  have loosened := parseWith_loosen_error loosens (parseWith_text_eq_error_iff.mpr failed) shared
  rw [read] at loosened
  cases loosened

/-! ## All restrictions -/

/-- A text that is read under restrictions is read to the same tree without any, and
    one that nests too deep for a limit is refused for that alone. A fault that is not
    about a restriction is found in the same place without it. A parse that does not
    fail for a limit is the same under every higher one. -/
theorem parseWith_restricted (text : String) (name : Option String) (n : Nat) (strict : Bool) :
    (∀ v, parseWith ⟨some n, strict⟩ (.text text) name = .ok v →
      parseWith .lenient (.text text) name = .ok v ∧
        ∃ trees, v = .list trees ∧ Tree.nestingAll trees ≤ n) ∧
    (∀ v, parseWith .lenient (.text text) name = .ok v → ∃ trees, v = .list trees ∧
      (Tree.nestingAll trees ≤ n → parseWith ⟨some n, false⟩ (.text text) name = .ok v) ∧
      (n < Tree.nestingAll trees →
        ∃ e, parseWith ⟨some n, false⟩ (.text text) name = .error (.syntactic e) ∧
          e.fault = .nestingTooDeep n)) ∧
    (∀ e, parseWith ⟨some n, strict⟩ (.text text) name = .error (.syntactic e) →
      (∀ limit, e.fault ≠ .nestingTooDeep limit) → (∀ c, e.fault ≠ .invalidEscapedChar c) →
      parseWith .lenient (.text text) name = .error (.syntactic e)) ∧
    ∀ m : Option Nat, (∀ limit, m = some limit → n ≤ limit) →
      (∀ e, parseWith ⟨some n, strict⟩ (.text text) name = .error (.syntactic e) →
        ∀ limit, e.fault ≠ .nestingTooDeep limit) →
      parseWith ⟨m, strict⟩ (.text text) name =
        parseWith ⟨some n, strict⟩ (.text text) name := by
  refine ⟨?_, ?_, ?_, ?_⟩
  · intro v read
    exact ⟨parseWith_loosen_ok (Settings.lenient_loosens _) read, nestingAll_le_of_ok read rfl⟩
  · intro v read
    obtain ⟨trees, rfl, -⟩ := Reader.reads_iff.mp (parseWith_text_eq_ok_iff.mp read)
    exact ⟨trees, rfl, parseWith_limited_of_le read, parseWith_limited_of_lt read⟩
  · intro e failed depth escapes
    apply parseWith_loosen_error (Settings.lenient_loosens _) failed
    exact ⟨depth, fun c unknown => absurd unknown (escapes c)⟩
  · intro m higher depth
    have loosens : Settings.Loosens ⟨m, strict⟩ ⟨some n, strict⟩ :=
      ⟨fun limit limited => ⟨n, rfl, higher limit limited⟩, id⟩
    apply parseWith_loosen loosens
    intro e failed
    exact ⟨depth e failed, fun _ _ => rfl⟩

end Sexpr
