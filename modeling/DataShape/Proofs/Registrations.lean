import DataShape.Proofs.Checks
import DataShape.Proofs.Engines
import DataShape.Session

/-!
# Runs of registrations and checks

The current validator of a process is changed by registrations only, and of these only the last one
that succeeded counts.

* `Use` — a registration or a check with the current validator.
* `libraryOf` — the library that a configuration stands for; `libraryAfter` — the one registered
  last by a list of uses.
* `extend_step`, `check_step`, `check_shown` — what one use does to a session.
* `types_after` — after any uses the current types are the default types with the library
  registered last.
* `uses_follow_last_registration` — **what every use in every run answers, and what it leaves as it
  was**.
-/

namespace DataShape

/-! ## Registering twice -/

namespace TypeTable

theorem set_set (name : String) (c d : Checker) (es : List (String × Checker)) :
    set name d (set name c es) = set name d es := by
  induction es with
  | nil => simp [set]
  | cons e es ih =>
    obtain ⟨n, b⟩ := e
    by_cases hn : n = name
    · simp [set, hn]
    · simp [set, hn, ih]

theorem withLibrary_withLibrary (T : TypeTable) (a b : Library) :
    (T.withLibrary a).withLibrary b = T.withLibrary b := by
  rw [withLibrary, withLibrary, withLibrary, set_set]

theorem standardWith_withLibrary (library : Option Library) (l : Library) :
    (standardWith library).withLibrary l = standardWith (some l) := by
  cases library with
  | none => rfl
  | some a => exact withLibrary_withLibrary standard a l

/-- A library changes what is told of observables, not which types there are. -/
theorem names_standardWith (library : Option Library) :
    (standardWith library).names = standard.names := by
  have h : (standardWith library).entries.map Prod.fst = standard.entries.map Prod.fst := by
    cases library <;> rfl
  rw [names, names, h]

theorem library?_standardWith (library : Option Library) :
    (standardWith library).library? = library := by
  rw [library?, find?_standardWith, if_pos rfl]

end TypeTable

/-- Without a library nothing is shown. -/
theorem seen_check_standard (v P : Value) : (check .standard v P).seen = [] := by
  rw [check]
  split
  · rename_i p _
    refine List.eq_nil_iff_forall_not_mem.2 ?_
    refine p.mem_seen_check (Q := fun _ => False) (fun v type _ _ u hu => ?_) v
    rw [TypeTable.seen_check_standard] at hu
    cases hu
  · rfl

/-! ## Configurations -/

/-- The library that a configuration stands for: of its values under `knockout` and `ko`, in this
order, the first that is not null has to be one. -/
def libraryOf (offers : Value → Option Library) (config : Value) : Option Library := do
  let entries ← config.entries?
  let given := ["knockout", "ko"].filterMap fun key => Value.lookup key entries
  let handle ← given.find? fun v => v.kind != .null
  offers handle

theorem firstGiven_eq_find? (entries : List (Value × Value)) (keys : List String) :
    firstGiven entries keys =
      (keys.filterMap fun key => Value.lookup key entries).find? fun v => v.kind != .null := by
  induction keys with
  | nil => rfl
  | cons key keys ih =>
    rw [firstGiven, List.filterMap_cons]
    cases hv : Value.lookup key entries with
    | none => exact ih
    | some v =>
      by_cases hn : v = .null
      · subst hn
        exact ih
      · have hk : (v.kind != .null) = true := by
          simpa [Value.kind_eq_null_iff] using hn
        simp [hk]

/-- A configuration is accepted iff it stands for a library. -/
theorem requestedLibrary_cases (offers : Value → Option Library) (config : Value) :
    (∃ handle library, requestedLibrary offers config = .ok (handle, library) ∧
        libraryOf offers config = some library) ∨
      ∃ fault, requestedLibrary offers config = .error fault ∧ libraryOf offers config = none := by
  unfold requestedLibrary requestedHandle libraryOf
  cases config.entries? with
  | none => exact .inr ⟨_, rfl, rfl⟩
  | some entries =>
    simp only [firstGiven_eq_find?, libraryKeys, Option.bind_eq_bind, Option.bind_some]
    cases (["knockout", "ko"].filterMap fun key => Value.lookup key entries).find?
        fun v => v.kind != .null with
    | none => exact .inr ⟨_, rfl, rfl⟩
    | some handle =>
      cases ho : offers handle with
      | none => exact .inr ⟨.unusableLibrary, by simp [ho], ho⟩
      | some library => exact .inl ⟨handle, library, by simp [ho], ho⟩

/-! ## Uses of the current validator -/

/-- A registration with the current validator, or a check by it. -/
inductive Use where
  | extend (config : Value)
  | check (v pattern : Value) (name : Option String)

namespace Use

/-- A use as an action of a session. -/
def action : Use → Action
  | extend config => .extend config
  | check v pattern name => .check v pattern name none

/-- The library that a use registers, if it registers one. -/
def library? (offers : Value → Option Library) : Use → Option Library
  | extend config => libraryOf offers config
  | check _ _ _ => none

end Use

section

variable (offers : Value → Option Library)

/-- The library registered last. -/
def libraryAfter (uses : List Use) : Option Library :=
  (uses.filterMap (Use.library? offers)).getLast?

/-- A fresh process after some uses of its validator. -/
def sessionAfter (uses : List Use) : Session :=
  (Session.run offers .start (uses.map Use.action)).1

/-- The answers to uses of the validator of a fresh process. -/
def answersTo (uses : List Use) : List Answer :=
  (Session.run offers .start (uses.map Use.action)).2

theorem libraryAfter_cons (u : Use) (uses : List Use) :
    libraryAfter offers (u :: uses) = (libraryAfter offers uses).or (u.library? offers) := by
  rw [libraryAfter, libraryAfter, List.filterMap_cons]
  cases u.library? offers with
  | none => exact (Option.or_none).symm
  | some l =>
    rw [List.getLast?_cons]
    cases (uses.filterMap (Use.library? offers)).getLast? <;> rfl

end

namespace Session

variable {offers : Value → Option Library}

/-! ## One step -/

/-- The answer of a run under a name. -/
def answerOf (name : Option String) (r : Run) : Answer := .ofResult (r.outcome name)

theorem extend_accepted {s : Session} {config : Value} {library : Library}
    (h : libraryOf offers config = some library) :
    (s.step offers (.extend config)).1.current.types = s.current.types.withLibrary library ∧
      (s.step offers (.extend config)).1.shown = s.shown ∧
      (s.step offers (.extend config)).2.1 = .done := by
  rcases requestedLibrary_cases offers config with ⟨handle, l, hr, hl⟩ | ⟨fault, -, hl⟩
  · cases h.symm.trans hl
    rw [step, extend, hr]
    exact ⟨rfl, rfl, rfl⟩
  · cases h.symm.trans hl

theorem extend_refused {s : Session} {config : Value} (h : libraryOf offers config = none) :
    (s.step offers (.extend config)).1 = s ∧
      ∃ fault : RegistrationFault,
        (s.step offers (.extend config)).2.1 = .failed (.config fault.message) := by
  rcases requestedLibrary_cases offers config with ⟨handle, l, -, hl⟩ | ⟨fault, hr, -⟩
  · cases h.symm.trans hl
  · rw [step, extend, hr]
    exact ⟨rfl, fault, rfl⟩

theorem note_current (T : TypeTable) (seen : List Value) (s : Session) :
    (s.note T seen).current = s.current := by
  unfold note
  split <;> rfl

/-- What is noted is noted for the library of the table. -/
theorem shownTo_note (library : Option Library) (seen : List Value) (s : Session) (id : Nat) :
    (s.note (.standardWith library) seen).shownTo id =
      s.shownTo id ++ if library.any fun l => l.id == id then seen else [] := by
  rw [note, TypeTable.library?_standardWith]
  cases library with
  | none => simp
  | some l =>
    by_cases hid : l.id = id
    · simp [shownTo, hid, List.filter_map, Function.comp_def]
    · simp [shownTo, hid, List.filter_map, Function.comp_def]

/-- A registration is done iff its configuration stands for a library; otherwise nothing changes. -/
theorem extend_step (offers : Value → Option Library) (s : Session) (config : Value) :
    ((s.step offers (.extend config)).2.1 = .done ↔
        ∃ library, libraryOf offers config = some library) ∧
      ((s.step offers (.extend config)).2.1 ≠ .done →
        (s.step offers (.extend config)).1 = s ∧ ∃ fault : RegistrationFault,
          (s.step offers (.extend config)).2.1 = .failed (.config fault.message)) := by
  cases hl : libraryOf offers config with
  | none =>
    obtain ⟨hsame, fault, hfault⟩ := extend_refused (s := s) hl
    refine ⟨⟨fun hdone => ?_, fun ⟨_, h⟩ => nomatch h⟩, fun _ => ⟨hsame, fault, hfault⟩⟩
    cases hfault.symm.trans hdone
  | some library =>
    obtain ⟨-, -, hdone⟩ := extend_accepted (s := s) hl
    exact ⟨⟨fun _ => ⟨library, rfl⟩, fun _ => hdone⟩, fun h => absurd hdone h⟩

/-- A check leaves the validator alone. -/
theorem check_step (offers : Value → Option Library) {s : Session} {library : Option Library}
    (hs : s.current.types = .standardWith library) (v pattern : Value) (name : Option String) :
    (s.step offers (.check v pattern name none)).1.current = s.current ∧
      (s.step offers (.check v pattern name none)).2.1 =
        answerOf name (DataShape.check (.standardWith library) v pattern) := by
  have hT : (s.validator none).types = .standardWith library := hs
  rw [step, check, hT, Engine.check_eq]
  exact ⟨note_current _ _ _, rfl⟩

/-- A check shows values to the library of its types only. -/
theorem check_shown (offers : Value → Option Library) {s : Session} {library : Option Library}
    (hs : s.current.types = .standardWith library) (v pattern : Value) (name : Option String) :
    (∀ l, library = some l → (s.step offers (.check v pattern name none)).1.shownTo l.id =
        s.shownTo l.id ++ (DataShape.check (.standardWith library) v pattern).seen) ∧
      ∀ id, (∀ l, library = some l → l.id ≠ id) →
        (s.step offers (.check v pattern name none)).1.shownTo id = s.shownTo id := by
  have hT : (s.validator none).types = .standardWith library := hs
  rw [step, check, hT, Engine.check_eq]
  constructor
  · rintro l rfl
    simp only [shownTo_note, Run.seen_report, Option.any_some, beq_self_eq_true, if_true]
  · intro id hid
    have hother : (library.any fun l => l.id == id) = false := by
      cases library with
      | none => rfl
      | some l => simpa using hid l rfl
    simp only [shownTo_note, hother, Bool.false_eq_true, if_false, List.append_nil]

/-! ## Runs -/

theorem run_append (s : Session) (xs ys : List Action) :
    s.run offers (xs ++ ys) =
      (((s.run offers xs).1.run offers ys).1,
        (s.run offers xs).2 ++ ((s.run offers xs).1.run offers ys).2) := by
  induction xs generalizing s with
  | nil => rfl
  | cons x xs ih => simp only [List.cons_append, run, ih]

theorem length_run (s : Session) (xs : List Action) : (s.run offers xs).2.length = xs.length := by
  induction xs generalizing s with
  | nil => rfl
  | cons x xs ih => simp only [run, List.length_cons, ih]

/-- The validator after some uses, from one with the default types. -/
theorem types_run {s : Session} {library : Option Library} (uses : List Use)
    (hs : s.current.types = .standardWith library) :
    (s.run offers (uses.map Use.action)).1.current.types =
      .standardWith ((libraryAfter offers uses).or library) := by
  induction uses generalizing s library with
  | nil => exact hs
  | cons u uses ih =>
    rw [libraryAfter_cons, Option.or_assoc, List.map_cons, run]
    refine ih ?_
    cases u with
    | extend config =>
      cases hl : libraryOf offers config with
      | none =>
        rw [Use.action, (extend_refused hl).1, hs, Use.library?, hl]
        rfl
      | some l =>
        rw [Use.action, (extend_accepted hl).1, hs, TypeTable.standardWith_withLibrary,
          Use.library?, hl]
        rfl
    | check v pattern name =>
      rw [Use.action, (check_step offers hs v pattern name).1]
      exact hs

end Session

variable {offers : Value → Option Library}

theorem types_after (uses : List Use) :
    (sessionAfter offers uses).current.types = .standardWith (libraryAfter offers uses) := by
  have hstart : Session.start.current.types = .standardWith none := rfl
  rw [sessionAfter, Session.types_run uses hstart, Option.or_none]

/-- One more use is one more step. -/
theorem sessionAfter_append (before : List Use) (u : Use) :
    sessionAfter offers (before ++ [u]) =
      ((sessionAfter offers before).step offers u.action).1 := by
  rw [sessionAfter, List.map_append, Session.run_append]
  rfl

theorem answersTo_getElem? (before after : List Use) (u : Use) :
    (answersTo offers (before ++ u :: after))[before.length]? =
      some ((sessionAfter offers before).step offers u.action).2.1 := by
  have hlength : (Session.run offers .start (before.map Use.action)).2.length = before.length := by
    rw [Session.length_run, List.length_map]
  rw [answersTo, List.map_append, Session.run_append]
  simp only [List.getElem?_append_right (Nat.le_of_eq hlength), hlength, Nat.sub_self]
  rfl

/-- **The last registration rules.**  In every run of registrations and checks by the validator of a
fresh process, a registration succeeds iff its configuration stands for a library, and fails with a
fault of the setup that leaves everything as it was.  A check leaves the validator as it was, and
answers like the default types with the library registered last, which is the only one that can be
asked and the only one that is shown anything.  The names of the types never change. -/
theorem uses_follow_last_registration (offers : Value → Option Library) (before after : List Use)
    (u : Use) :
    let s := sessionAfter offers before
    let t := sessionAfter offers (before ++ [u])
    let last := libraryAfter offers before
    ∃ answer, (answersTo offers (before ++ u :: after))[before.length]? = some answer ∧
      (∀ config, u = .extend config →
        (answer = .done ↔ ∃ library, libraryOf offers config = some library) ∧
        (answer ≠ .done →
          t = s ∧ ∃ fault : RegistrationFault, answer = .failed (.config fault.message))) ∧
      (∀ v P name, u = .check v P name →
        t.current = s.current ∧
        answer = Session.answerOf name (check (.standardWith last) v P) ∧
        (∀ library, last = some library →
          t.shownTo library.id = s.shownTo library.id ++ (check (.standardWith last) v P).seen) ∧
        (∀ id, (∀ library, last = some library → library.id ≠ id) →
          t.shownTo id = s.shownTo id) ∧
        (last = none → (check (.standardWith last) v P).seen = [])) ∧
      (∀ type library, s.current.types.checker? type = some (.observable (some library)) →
        last = some library) ∧
      t.current.types.names = TypeTable.standard.names := by
  intro s t last
  have hs : s.current.types = .standardWith last := types_after before
  have ht : t = (s.step offers u.action).1 := sessionAfter_append before u
  refine ⟨_, answersTo_getElem? before after u, ?_, ?_, ?_, ?_⟩
  · rintro config rfl
    rw [ht]
    exact Session.extend_step offers s config
  · rintro v P name rfl
    obtain ⟨hcurrent, hanswer⟩ := Session.check_step offers hs v P name
    obtain ⟨hshown, hothers⟩ := Session.check_shown offers hs v P name
    rw [ht]
    refine ⟨hcurrent, hanswer, hshown, hothers, fun hlast => ?_⟩
    rw [hlast]
    exact seen_check_standard v P
  · intro type library h
    exact TypeTable.library_of_checker? (hs ▸ h)
  · have htypes : t.current.types = .standardWith (libraryAfter offers (before ++ [u])) :=
      types_after _
    rw [htypes, TypeTable.names_standardWith]

end DataShape
