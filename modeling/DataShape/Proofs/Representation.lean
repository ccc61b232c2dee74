import DataShape.Proofs.Culprit
import DataShape.Proofs.Engines
import DataShape.Proofs.Weakening

/-!
# Representation

Which container a value is made of does not matter to a check: a list may stand for a tuple, and a
read-only mapping for one that can be edited, with its keys in another order.  The one thing that
tells is the error of calling a container, where a library accepts it as an observable or a string
pattern built by hand asks for its contents: it names the class of the container.

* `Value.Alike` — values that differ in their representation only, at any depth.
* `Alike.kind_eq`, `Alike.entries`, `Alike.members`, `Alike.call` — what the views through which a
  check looks into a value tell of alike values; `walk_of_alike` — the same for dotted keys.
* `EndAlike` — runs that end in one way, or each with the error of calling a container.
* `Value.offersChoice`, `noChoice_of_read` — patterns in which no allowed values occur.
* `TypeTable.result_check_of_alike`, `Pattern.endAlike_check` — tests of types and checks against
  patterns that are read end alike.
* `alike_values_end_alike` — **checks of alike values end alike**, with any library that answers
  alike about them; `tuple_is_told_by_call` — the error that tells.

Patterns with allowed values are left out, since a container is allowed for its identity, which
alike values do not share.
-/

namespace DataShape

/-! ## Alike values -/

namespace Value

/-- The value under a key, the first if there are several. Keys are the same if they are one object
or equal. -/
def valueAt (k : Value) : List (Value × Value) → Option Value
  | [] => none
  | (l, v) :: rest => if l.isObject k || l.eqv k then some v else valueAt k rest

/-- What a function or an observable returns. -/
def reads? : Value → Option Value
  | .function _ result | .observable _ result => some result
  | _ => none

/-- Values that differ in their representation only.  With `mixed` functions stand for observables
that read alike.  Sequences and mappings that can be called are alike to nothing. -/
inductive Alike (mixed : Prop) : Value → Value → Prop
  /-- One value that is not a container. -/
  | same {v} : v.kind.isContainer = false → Alike mixed v v
  /-- One number, twice. -/
  | float {i j x} : Alike mixed (.float i x) (.float j x)
  /-- Lists and tuples of one length, with alike members. -/
  | sequences {form form' i j} {xs ys : List Value} : xs.length = ys.length →
      (∀ (n : Nat) (x y : Value), xs[n]? = some x → ys[n]? = some y → Alike mixed x y) →
      Alike mixed (.sequence form i xs) (.sequence form' j ys)
  /-- Mappings with the same keys in any order, and alike values. -/
  | mappings {form form' i j es fs} : (∀ k, (valueAt k es).isSome = (valueAt k fs).isSome) →
      (∀ k x y, valueAt k es = some x → valueAt k fs = some y → Alike mixed x y) →
      Alike mixed (.mapping form i es) (.mapping form' j fs)
  /-- Functions, or observables, whose calls return alike values. -/
  | calls {v w a b} : mixed ∨ v.isObservable = w.isObservable → v.reads? = some a →
      w.reads? = some b → Alike mixed a b → Alike mixed v w

/-- A string key is only the same as itself. -/
theorem valueAt_cons_string (k : Value) (s : String) (v : Value) (rest : List (Value × Value)) :
    valueAt k ((.string s, v) :: rest) = if k.isString s then some v else valueAt k rest := by
  have hother : (string s).isObject k = false := by
    cases k <;> rfl
  rw [valueAt, hother, eqv, Bool.false_or]

/-- Under a string there is what a check of the field looks up. -/
theorem valueAt_string (key : String) (es : List (Value × Value)) :
    valueAt (.string key) es = lookup key es := by
  induction es with
  | nil => rfl
  | cons e es ih =>
    obtain ⟨l, v⟩ := e
    rw [valueAt, lookup, isObject_string, eqv_string, Bool.false_or, ih]

theorem call_of_reads {v a : Value} (h : v.reads? = some a) : v.call = .returned a := by
  cases v <;> cases h <;> rfl

theorem kind_of_reads {v a : Value} (h : v.reads? = some a) : v.kind = .function := by
  cases v <;> cases h <;> rfl

namespace Alike

variable {mixed : Prop} {v w : Value}

theorem kind_eq (h : v.Alike mixed w) : v.kind = w.kind := by
  cases h with
  | same => rfl
  | float => rfl
  | sequences => rfl
  | mappings => rfl
  | calls _ hv hw => rw [kind_of_reads hv, kind_of_reads hw]

/-- Alike values are both absent, or both null, or neither. -/
theorem eq_iff (h : v.Alike mixed w) :
    (v = .missing ↔ w = .missing) ∧ (v = .null ↔ w = .null) := by
  have hmissing : ∀ {u : Value}, u = .missing ↔ u.kind = .missing := by
    intro u
    cases u <;> simp [kind]
  rw [hmissing, hmissing, ← kind_eq_null_iff, ← kind_eq_null_iff, h.kind_eq]
  exact ⟨Iff.rfl, Iff.rfl⟩

/-- Calls return alike values, or end the same; what cannot be called is of one class unless it is a
container. -/
theorem call (h : v.Alike mixed w) :
    (∃ a b, v.call = .returned a ∧ w.call = .returned b ∧ a.Alike mixed b) ∨
      (v.call = w.call ∧ v.className = w.className) ∨
      (v.call = .notCallable ∧ w.call = .notCallable ∧ v.kind.isContainer = true) := by
  cases h with
  | same => exact .inr (.inl ⟨rfl, rfl⟩)
  | float => exact .inr (.inl ⟨rfl, rfl⟩)
  | sequences => exact .inr (.inr ⟨rfl, rfl, rfl⟩)
  | mappings => exact .inr (.inr ⟨rfl, rfl, rfl⟩)
  | calls _ hv hw h => exact .inl ⟨_, _, call_of_reads hv, call_of_reads hw, h⟩

theorem isCallable_eq (h : v.Alike mixed w) : v.isCallable = w.isCallable := by
  rw [isCallable, isCallable]
  rcases h.call with ⟨a, b, hv, hw, -⟩ | ⟨hcall, -⟩ | ⟨hv, hw, -⟩
  · rw [hv, hw]
  · rw [hcall]
  · rw [hv, hw]

/-- The members of alike arrays are alike, place by place. -/
theorem members (h : v.Alike mixed w) (hkind : v.kind = .array) :
    ∃ xs ys, v.members? = some xs ∧ w.members? = some ys ∧ xs.length = ys.length ∧
      ∀ (n : Nat) (x y : Value), xs[n]? = some x → ys[n]? = some y → x.Alike mixed y := by
  cases h with
  | same hcontainer =>
    rw [hkind] at hcontainer
    cases hcontainer
  | float => cases hkind
  | sequences hlen hmembers => exact ⟨_, _, rfl, rfl, hlen, hmembers⟩
  | mappings => cases hkind
  | calls _ hv =>
    rw [kind_of_reads hv] at hkind
    cases hkind

/-- With the same keys and alike values, a string key finds alike values, or is absent in both. -/
theorem getD_of_same_keys {es fs : List (Value × Value)}
    (hkeys : ∀ k, (valueAt k es).isSome = (valueAt k fs).isSome)
    (hvalues : ∀ k x y, valueAt k es = some x → valueAt k fs = some y → x.Alike mixed y)
    (key : String) : (getD key es).Alike mixed (getD key fs) := by
  have hsome := hkeys (.string key)
  have halike := hvalues (.string key)
  rw [valueAt_string, valueAt_string] at hsome halike
  rw [getD, getD]
  cases hx : lookup key es with
  | none =>
    rw [hx] at hsome
    have hy : lookup key fs = none := Option.not_isSome_iff_eq_none.1 (by simp [← hsome])
    rw [hy]
    exact .same rfl
  | some x =>
    rw [hx] at hsome
    obtain ⟨y, hy⟩ := Option.isSome_iff_exists.1 hsome.symm
    rw [hy]
    exact halike x y hx hy

/-- Alike values are both no objects, or under every string key there are alike values in them. -/
theorem entries (h : v.Alike mixed w) :
    (v.entries? = none ∧ w.entries? = none) ∨
      ∃ es fs, v.entries? = some es ∧ w.entries? = some fs ∧
        ∀ key, (getD key es).Alike mixed (getD key fs) := by
  have hnone : ∀ {u : Value}, u.kind ≠ .object → u.entries? = none := by
    intro u hu
    exact Option.not_isSome_iff_eq_none.1 fun hsome => hu (kind_eq_object_iff.2 hsome)
  by_cases hkind : v.kind = .object
  · cases h with
    | same hcontainer =>
      rw [hkind] at hcontainer
      cases hcontainer
    | float => cases hkind
    | sequences => cases hkind
    | mappings hkeys hvalues => exact .inr ⟨_, _, rfl, rfl, getD_of_same_keys hkeys hvalues⟩
    | calls _ hv =>
      rw [kind_of_reads hv] at hkind
      cases hkind
  · exact .inl ⟨hnone hkind, hnone fun hw => hkind (h.kind_eq.trans hw)⟩

/-- Unless functions stand for observables, every library at hand answers alike about alike
values. -/
theorem recognise_ofKind (h : v.Alike False w) (id : Nat) (kind : String) :
    (Library.ofKind id kind).recognise v = (Library.ofKind id kind).recognise w := by
  have hobservable : v.isObservable = w.isObservable := by
    cases h with
    | same => rfl
    | float => rfl
    | sequences => rfl
    | mappings => rfl
    | calls hv => exact hv.resolve_left not_false
  have hreadable : v.isReadable = w.isReadable := by
    cases h with
    | same => rfl
    | float => rfl
    | sequences => rfl
    | mappings => rfl
    | @calls v w _ _ _ hv hw => cases v <;> cases hv <;> cases w <;> cases hw <;> rfl
  rw [Library.ofKind]
  unfold Library.stock?
  split
  · exact congrArg Recognition.ofBool hobservable
  · exact congrArg Recognition.ofBool hobservable
  · exact congrArg Recognition.ofBool h.isCallable_eq
  · rfl
  · rfl
  · exact congrArg Recognition.ofBool hreadable
  · rfl
  · rfl

end Alike

end Value

/-- Dotted keys lead to alike parts of alike values, or are stopped at the same step. -/
theorem walk_of_alike {mixed : Prop} (keys : List String) {v w : Value} (h : v.Alike mixed w) :
    (∃ steps, walk keys v = .error steps ∧ walk keys w = .error steps) ∨
      ∃ a b, walk keys v = .ok a ∧ walk keys w = .ok b ∧ a.Alike mixed b := by
  induction keys generalizing v w with
  | nil => exact .inr ⟨v, w, rfl, rfl, h⟩
  | cons key keys ih =>
    rcases h.entries with ⟨hv, hw⟩ | ⟨es, fs, hv, hw, hvalues⟩
    · exact .inl ⟨[], by rw [walk, hv], by rw [walk, hw]⟩
    · have hstep : ∀ {u : Value} {gs}, u.entries? = some gs → walk (key :: keys) u =
          (walk keys (Value.getD key gs)).mapError (.field key :: ·) := by
        intro u gs hu
        rw [walk, hu]
      rw [hstep hv, hstep hw]
      rcases ih (hvalues key) with ⟨steps, hes, hfs⟩ | ⟨a, b, hes, hfs, hab⟩
      · rw [hes, hfs]
        exact .inl ⟨.field key :: steps, rfl, rfl⟩
      · rw [hes, hfs]
        exact .inr ⟨a, b, rfl, rfl, hab⟩

/-! ## Runs that end alike -/

/-- Two ways to end that are the same, or are the errors of calling two alike containers. -/
inductive EndAlike (mixed : Prop) : Except Failure Unit → Except Failure Unit → Prop
  | same (e) : EndAlike mixed e e
  | uncallable {a b : Value} : a.Alike mixed b → a.kind.isContainer = true →
      EndAlike mixed (.error (.misuse (.notCallable a.className)))
        (.error (.misuse (.notCallable b.className)))

namespace EndAlike

variable {mixed : Prop} {r s : Run}

/-- Ways to end that are alike are both a success or both none. -/
theorem succeeds_eq (h : EndAlike mixed r.result s.result) : r.succeeds = s.succeeds := by
  obtain ⟨events, e⟩ := r
  obtain ⟨events', e'⟩ := s
  cases h with
  | same => rfl
  | uncallable => rfl

theorem andThen {next next' : Unit → Run} (h : EndAlike mixed r.result s.result)
    (hnext : s.succeeds = true → EndAlike mixed (next ()).result (next' ()).result) :
    EndAlike mixed (r.andThen next).result (s.andThen next').result := by
  cases hs : s.succeeds with
  | true =>
    rw [Run.andThen_of_succeeds (h.succeeds_eq.trans hs), Run.andThen_of_succeeds hs]
    exact hnext hs
  | false =>
    rw [Run.andThen_of_fails (h.succeeds_eq.trans hs), Run.andThen_of_fails hs]
    exact h

/-- The error of calling a container does not say where it is. -/
theorem under (step : Step) (h : EndAlike mixed r.result s.result) :
    EndAlike mixed (r.under step).result (s.under step).result := by
  obtain ⟨events, e⟩ := r
  obtain ⟨events', e'⟩ := s
  cases h with
  | same => exact .same _
  | uncallable hab hcontainer => exact .uncallable hab hcontainer

theorem within (steps : List Step) (h : EndAlike mixed r.result s.result) :
    EndAlike mixed (r.within steps).result (s.within steps).result := by
  induction steps with
  | nil => exact h
  | cons step steps ih => exact under step ih

/-- Lists end alike if their members do, place by place. -/
theorem each {c d : Value → Run} {xs ys : List Value} (hlen : xs.length = ys.length)
    (h : ∀ (n : Nat) (x y : Value), xs[n]? = some x → ys[n]? = some y →
      EndAlike mixed (c x).result (d y).result) (i : Nat) :
    EndAlike mixed (Run.each c i xs).result (Run.each d i ys).result := by
  induction xs generalizing ys i with
  | nil =>
    cases ys with
    | nil => exact .same _
    | cons => cases hlen
  | cons x xs ih =>
    cases ys with
    | nil => cases hlen
    | cons y ys =>
      have hhead : EndAlike mixed (c x).result (d y).result := h 0 x y rfl rfl
      have htail := ih (Nat.succ.inj hlen) (fun n => h (n + 1)) (i + 1)
      exact andThen (under _ hhead) fun _ => htail

end EndAlike

/-! ## Patterns without allowed values -/

mutual

/-- Whether `__allowedValues` is a key of a mapping where a verification of a pattern looks. -/
def Value.offersChoice : Value → Bool
  | .mapping _ _ es | .callableMapping _ es _ => anyOffersChoice es
  | .prebuilt _ _ _ within _ => within.offersChoice
  | _ => false

/-- Whether it is one of these keys, or one in an entry that can be a pattern. -/
def Value.anyOffersChoice : List (Value × Value) → Bool
  | [] => false
  | (k, P) :: rest =>
    k.isString Keyword.allowedValues || (Keyword.isPlace k && P.offersChoice) ||
      anyOffersChoice rest

end

section

variable {T : TypeTable} {P E k : Value} {p : Pattern} {es : List (Value × Value)}
  {way : List Step}

theorem Value.offersChoice_eq_false (he : P.entries? = some es) (hP : P.offersChoice = false)
    (hmem : (k, E) ∈ es) :
    k ≠ .string Keyword.allowedValues ∧ (Keyword.isPlace k = true → E.offersChoice = false) := by
  have hes : anyOffersChoice es = false := by
    cases P <;> cases he <;> exact hP
  clear he hP
  induction es with
  | nil => cases hmem
  | cons e es ih =>
    obtain ⟨k', E'⟩ := e
    simp only [anyOffersChoice, Bool.or_eq_false_iff, Bool.and_eq_false_iff] at hes
    obtain ⟨⟨hkey, hplace⟩, hrest⟩ := hes
    rcases List.mem_cons.1 hmem with he | hmem
    · cases he
      refine ⟨?_, fun hk => hplace.resolve_left (by simp [hk])⟩
      rintro rfl
      simp [isString] at hkey
    · exact ih hmem hrest

theorem StringPattern.offersChoice_toValue (p : StringPattern) :
    p.toValue.offersChoice = false := by
  induction p with
  | leaf h => rfl
  | nest h p ih => exact ih

/-- Where no allowed values occur, none are asked for. -/
theorem noChoice_of_read (h : Pattern.read T P = .ok p) (hP : P.offersChoice = false) :
    p.level.allowed = none := by
  cases ha : p.level.allowed with
  | none => rfl
  | some allowed =>
    obtain ⟨es, he, hchoice⟩ := choice_of_read h ha
    obtain ⟨A, hA, -⟩ := Option.bind_eq_some_iff.1 hchoice
    exact absurd rfl (Value.offersChoice_eq_false he hP (Value.lookup_mem hA)).1

theorem offersChoice_of_isPart (h : IsPart T P way E) (hP : P.offersChoice = false) :
    E.offersChoice = false := by
  induction h with
  | element _ he _ hE => exact (Value.offersChoice_eq_false he hP (Value.lookup_mem hE)).2 rfl
  | contents he _ hE => exact (Value.offersChoice_eq_false he hP (Value.lookup_mem hE)).2 rfl
  | field he _ hF hk => exact (Value.offersChoice_eq_false he hP hF).2 (isPlace_of_isField hk)
  | builtElement => exact hP
  | builtContents => exact hP
  | spelled _ _ ih => exact ih (StringPattern.offersChoice_toValue _)

end

/-! ## Checks of alike values -/

section

variable {mixed : Prop} {library : Option Library}
  (hlibrary : ∀ l, library = some l → ∀ v w : Value, v.Alike mixed w →
    l.recognise v = l.recognise w)

include hlibrary

/-- No test of a type tells alike values apart. -/
theorem TypeTable.result_check_of_alike {v w : Value} (h : v.Alike mixed w) (type : Value) :
    ((standardWith library).check v type).result =
      ((standardWith library).check w type).result := by
  rw [check, check]
  cases hc : (standardWith library).checker? type with
  | none => rfl
  | some c =>
    cases c with
    | ofKind kind => simp only [Checker.run, h.kind_eq]
    | callable => simp only [Checker.run, h.isCallable_eq]
    | observable asked =>
      cases asked with
      | none => rfl
      | some l =>
        simp only [Checker.run, hlibrary l (library_of_checker? hc) v w h]
        cases l.recognise w <;> rfl

/-- A level without a choice asks the same of alike values. -/
theorem Level.endAlike_check {l : Level} (ha : l.allowed = none) {v w : Value}
    (h : v.Alike mixed w) {parts parts' : Unit → Run}
    (hparts : ((TypeTable.standardWith library).check v l.type).succeeds = true →
      EndAlike mixed (parts ()).result (parts' ()).result) :
    EndAlike mixed (l.check (.standardWith library) v parts).result
      (l.check (.standardWith library) w parts').result := by
  by_cases hm : v = .missing
  · obtain rfl := hm
    obtain rfl := h.eq_iff.1.1 rfl
    exact .same _
  by_cases hn : v = .null
  · obtain rfl := hn
    obtain rfl := h.eq_iff.2.1 rfl
    exact .same _
  have hm' : w ≠ .missing := fun hw => hm (h.eq_iff.1.2 hw)
  have hn' : w ≠ .null := fun hw => hn (h.eq_iff.2.2 hw)
  have htype := TypeTable.result_check_of_alike hlibrary h l.type
  rw [check_type hm hn ha, check_type hm' hn' ha]
  refine EndAlike.andThen (htype ▸ .same _) fun hw => hparts ?_
  exact Run.succeeds_iff.2 (htype.trans (Run.succeeds_iff.1 hw))

omit hlibrary in
/-- Calls end alike if what they return is checked alike. -/
theorem endAlike_checkCall {c : Value → Run}
    (hc : ∀ a b : Value, a.Alike mixed b → EndAlike mixed (c a).result (c b).result) {v w : Value}
    (h : v.Alike mixed w) : EndAlike mixed (checkCall c v).result (checkCall c w).result := by
  rw [checkCall, checkCall, Run.calling, Run.calling]
  rcases h.call with ⟨a, b, hv, hw, hab⟩ | ⟨hcall, hclass⟩ | ⟨hv, hw, hcontainer⟩
  · rw [hv, hw]
    exact (hc a b hab).under .call
  · rw [hcall, hclass]
    exact .same _
  · rw [hv, hw]
    exact .uncallable h hcontainer

omit hlibrary in
/-- Fields end alike if what their keys lead to is checked alike. -/
theorem endAlike_checkFields {T : TypeTable} {fs : List (String × Pattern)}
    (hfs : ∀ f ∈ fs, ∀ a b : Value, a.Alike mixed b →
      EndAlike mixed (f.2.check T a).result (f.2.check T b).result) {v w : Value}
    (h : v.Alike mixed w) :
    EndAlike mixed (Pattern.checkFields T fs v).result (Pattern.checkFields T fs w).result := by
  induction fs with
  | nil => exact .same _
  | cons f fs ih =>
    obtain ⟨hf, hfs⟩ := List.forall_mem_cons.1 hfs
    rw [Pattern.checkFields, Pattern.checkFields]
    refine EndAlike.andThen ?_ fun _ => ih hfs
    rw [checkAt, checkAt]
    rcases walk_of_alike (segments f.1) h with ⟨steps, hv, hw⟩ | ⟨a, b, hv, hw, hab⟩
    · rw [hv, hw]
      exact .same _
    · rw [hv, hw]
      exact (hf a b hab).within _

/-- **A pattern that is read checks alike values alike**, part by part. -/
theorem Pattern.endAlike_check {p : Pattern} {P : Value}
    (hp : Pattern.read (.standardWith library) P = .ok p) (hP : P.offersChoice = false)
    {v w : Value} (h : v.Alike mixed w) :
    EndAlike mixed (p.check (.standardWith library) v).result
      (p.check (.standardWith library) w).result := by
  induction p using Pattern.induct generalizing P v w with
  | leaf l =>
    rw [check, check]
    exact Level.endAlike_check hlibrary (noChoice_of_read hp hP) h fun _ => .same _
  | elements l q ih =>
    rw [check, check]
    refine Level.endAlike_check hlibrary (noChoice_of_read hp hP) h fun htyped => ?_
    -- only arrays get here, so that the loops run through the members
    have harray : HasType library "array" v :=
      succeeds_check_standardWith.1 (type_of_elements hp ▸ htyped)
    have hkind : v.kind = .array :=
      Value.kind_eq_array_iff.2 (Option.isSome_iff_exists.2 harray)
    obtain ⟨E, hE, hpart⟩ := isPart_of_read hp (.element 0)
    obtain ⟨xs, ys, hxs, hys, hlen, hmembers⟩ := h.members hkind
    rw [checkEach, checkEach, Value.iterate?_eq_members? hkind,
      Value.iterate?_eq_members? (h.kind_eq ▸ hkind), hxs, hys]
    exact EndAlike.each hlen
      (fun n x y hx hy => ih hE (offersChoice_of_isPart hpart hP) (hmembers n x y hx hy)) 0
  | contents l q ih =>
    rw [check, check]
    refine Level.endAlike_check hlibrary (noChoice_of_read hp hP) h fun _ => ?_
    obtain ⟨E, hE, hpart⟩ := isPart_of_read hp .contents
    exact endAlike_checkCall
      (fun a b hab => ih hE (offersChoice_of_isPart hpart hP) hab) h
  | fields l fs ih =>
    rw [check, check]
    refine Level.endAlike_check hlibrary (noChoice_of_read hp hP) h fun _ => ?_
    refine endAlike_checkFields (fun f hf a b hab => ?_) h
    obtain ⟨F, hF, hpart⟩ := isPart_of_read hp (.field hf)
    exact ih f hf hF (offersChoice_of_isPart hpart hP) hab

end

/-- **Container representation does not matter.**  Without a library or with one that answers alike
about alike values, and against every pattern without allowed values, alike values are accepted
alike, or refused with one problem: the same error, message and path.  A pattern that is none is
reported for both.  Only the error of calling a container names the class of that container. -/
theorem alike_values_end_alike (mixed : Prop) (library : Option Library)
    (hlibrary : ∀ l, library = some l → ∀ v w : Value, v.Alike mixed w →
      l.recognise v = l.recognise w) (P v w : Value) (hP : P.offersChoice = false)
    (h : v.Alike mixed w) (name : Option String) :
    (Engine.check (.standardWith library) v P name).result =
        (Engine.check (.standardWith library) w P name).result ∨
      ∃ a b : Value, a.Alike mixed b ∧ a.kind.isContainer = true ∧
        (Engine.check (.standardWith library) v P name).result =
          .error (.misuse (.notCallable a.className)) ∧
        (Engine.check (.standardWith library) w P name).result =
          .error (.misuse (.notCallable b.className)) := by
  rw [Engine.result_check, Engine.result_check]
  cases hp : verify (.standardWith library) P with
  | error f =>
    rw [check_of_verify_error hp, check_of_verify_error hp]
    exact .inl rfl
  | ok p =>
    rw [check_of_verify hp, check_of_verify hp, Run.outcome, Run.outcome]
    have hresult := Pattern.endAlike_check hlibrary hp hP h
    generalize (p.check (.standardWith library) v).result = r at hresult
    generalize (p.check (.standardWith library) w).result = s at hresult
    cases hresult with
    | same => exact .inl rfl
    | uncallable hab hcontainer => exact .inr ⟨_, _, hab, hcontainer, rfl, rfl⟩

/-- A crate with two labels, and a weight that is read. -/
def crate : Value :=
  .mapping .editable 1 [(.string "labels", .sequence .list 2 [.string "dry", .integer 7]),
    (.string "weight", .observable 3 (.integer 12))]

/-- The same crate behind a view. -/
def crateView : Value :=
  .mapping .readOnly 4 [(.string "weight", .observable 5 (.integer 12)),
    (.string "labels", .sequence .tuple 6 [.string "dry", .integer 7])]

/-- What is asked of crates. -/
def cratePattern : Value :=
  .mapping .editable 7 [(.string "weight", .string "observable number"),
    (.string "labels", .string "array string")]

theorem crate_alike_crateView : crate.Alike False crateView := by
  have hlabels : (Value.sequence .list 2 [.string "dry", .integer 7]).Alike False
      (.sequence .tuple 6 [.string "dry", .integer 7]) := by
    refine .sequences rfl fun n x y hx hy => ?_
    obtain rfl : x = y := Option.some.inj (hx.symm.trans hy)
    rcases List.mem_cons.1 (List.mem_of_getElem? hx) with rfl | hmem
    · exact .same rfl
    · obtain rfl := List.mem_singleton.1 hmem
      exact .same rfl
  have hweight : (Value.observable 3 (.integer 12)).Alike False (.observable 5 (.integer 12)) :=
    .calls (.inr rfl) rfl rfl (.same rfl)
  refine .mappings (fun k => ?_) fun k x y hx hy => ?_
  · iterate 4 rw [Value.valueAt_cons_string]
    rw [Value.valueAt]
    split <;> split <;> rfl
  · rw [Value.valueAt_cons_string, Value.valueAt_cons_string, Value.valueAt] at hx hy
    by_cases hkey : k = .string "labels"
    · subst hkey
      cases hx
      cases hy
      exact hlabels
    · rw [if_neg fun h => hkey (Value.isString_iff.1 h)] at hx hy
      split at hx
      · rename_i hkey'
        rw [if_pos hkey'] at hy
        cases hx
        cases hy
        exact hweight
      · cases hx

/-- The second label is no text, in the crate and in the view. -/
theorem crateView_ends_like_crate :
    let ending (v : Value) : Except Problem Unit :=
      (Engine.check (.standardWith (some (.ofKind 1 "ko"))) v cratePattern (some "crate")).result
    ending crate = .error (.reported ⟨.pattern,
        "crate.labels[1] should have string type!", some "crate.labels[1]"⟩) ∧
      ending crateView = ending crate := by
  intro ending
  have hcrate : ending crate = .error (.reported ⟨.pattern,
      "crate.labels[1] should have string type!", some "crate.labels[1]"⟩) := by
    refine (Engine.result_check _ _ _ _).trans ?_
    decide +kernel
  refine ⟨hcrate, ?_⟩
  rcases alike_values_end_alike False (some (.ofKind 1 "ko"))
    (fun l hl v w h => Option.some.inj hl ▸ h.recognise_ofKind 1 "ko") cratePattern crate crateView
    (by decide +kernel) crate_alike_crateView (some "crate") with hsame | ⟨a, b, -, -, ha, -⟩
  · exact hsame.symm
  · cases hcrate.symm.trans ha

/-- A library that accepts a list as an observable tells it from a tuple by the error of calling
it. -/
theorem tuple_is_told_by_call :
    let library : Library := .ofKind 1 "all"
    let items : Value := .sequence .list 2 [.integer 7]
    let others : Value := .sequence .tuple 3 [.integer 7]
    (∀ v w : Value, v.Alike False w → library.recognise v = library.recognise w) ∧
      (Value.string "observable string").offersChoice = false ∧ items.Alike False others ∧
      (Engine.check (.standardWith (some library)) items (.string "observable string") none).result =
        .error (.misuse (.notCallable "list")) ∧
      (Engine.check (.standardWith (some library)) others (.string "observable string") none).result =
        .error (.misuse (.notCallable "tuple")) ∧
      Misuse.message (.notCallable "list") = "'list' object is not callable" ∧
      Misuse.message (.notCallable "tuple") = "'tuple' object is not callable" := by
  intro library items others
  refine ⟨fun v w h => h.recognise_ofKind 1 "all", rfl, .sequences rfl fun n x y hx hy => ?_, ?_, ?_,
    rfl, rfl⟩
  · cases hx.symm.trans hy
    cases List.mem_singleton.1 (List.mem_of_getElem? hx)
    exact .same rfl
  · refine (Engine.result_check _ _ _ _).trans ?_
    decide +kernel
  · refine (Engine.result_check _ _ _ _).trans ?_
    decide +kernel

end DataShape
