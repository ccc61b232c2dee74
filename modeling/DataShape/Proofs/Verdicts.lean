import DataShape.Proofs.BuiltPatterns
import DataShape.Proofs.Documents
import DataShape.Proofs.Engines
import DataShape.Proofs.FirstDefects
import DataShape.Proofs.Loading
import DataShape.Session

/-!
# Verdicts of the command line

* `Failure.IsPlain`, `isPlain_of_fails` — without a library a check fails for the value or for want
  of one, whatever it is given: nothing is called, and only arrays are looped over.
* `check_standard_ok_or_reported` — so it succeeds or ends with a report.
* `IsFit`, `exists_report_of_loadDocument` — files that hold text without long integers; what cannot
  be loaded of them is reported.
* `IsLabel`, `ChecksTo`, `FirstFault` — how the check of a command ends, under which name, and the
  first fault of its setup.
* `IsVerdictOn` — exit code and output of a verdict in terms of these.
* `commands_end_with_verdicts` — **every command on fit files ends with such a verdict**.

How arguments are understood, texts parsed and messages printed is given by any tools; of the
terminal alone it is used that it shows a plain word as it is.
-/

namespace DataShape

/-! ## Checks without a library -/

/-- The failures that are faults of the data, or due to the missing library. -/
def Failure.IsPlain (f : Failure) : Prop :=
  (∃ m steps, f = .mismatch m steps) ∨ ∃ steps, f = .defect ⟨.noLibrary, steps⟩

namespace Failure.IsPlain

variable {f : Failure}

theorem mismatch (m : Mismatch) (steps : List Step) : IsPlain (.mismatch m steps) :=
  .inl ⟨m, steps, rfl⟩

theorem under (h : f.IsPlain) (s : Step) : (f.under s).IsPlain := by
  rcases h with ⟨m, steps, rfl⟩ | ⟨steps, rfl⟩
  · exact .inl ⟨m, s :: steps, rfl⟩
  · exact .inr ⟨steps.map (s :: ·), rfl⟩

theorem within (h : f.IsPlain) (steps : List Step) : (f.within steps).IsPlain := by
  induction steps with
  | nil => exact h
  | cons s steps ih => exact ih.under s

/-- Such failures are reported. -/
theorem exists_report (h : f.IsPlain) (name : String) : ∃ r, f.problem name = .reported r := by
  rcases h with ⟨m, steps, rfl⟩ | ⟨steps, rfl⟩
  · exact ⟨_, rfl⟩
  · exact ⟨_, rfl⟩

end Failure.IsPlain

/-- Without a library the test of a known type fails for the value or for want of one. -/
theorem isPlain_of_check_standard {v type : Value} {f : Failure}
    (hk : ∃ c, TypeTable.standard.checker? type = some c)
    (h : (TypeTable.standard.check v type).result = .error f) : f.IsPlain := by
  obtain ⟨c, hc⟩ := hk
  rw [TypeTable.check, hc] at h
  cases c with
  | ofKind kind =>
    obtain ⟨-, rfl⟩ := Run.require_error_iff.1 h
    exact .mismatch _ _
  | callable =>
    obtain ⟨-, rfl⟩ := Run.require_error_iff.1 h
    exact .mismatch _ _
  | observable library =>
    cases library with
    | none => cases h; exact .inr ⟨_, rfl⟩
    | some l =>
      have hnone : (TypeTable.standardWith none).checker? type = some (.observable (some l)) := hc
      cases TypeTable.library_of_checker? hnone

/-- Without a library nothing is accepted as an observable. -/
theorem not_opens_observable {l : Level} {v : Value} (hl : l.type = .string "observable") :
    ¬ l.Opens .standard v := by
  intro h
  have htyped := h.typed
  rw [hl] at htyped
  cases htyped

/-- The values that are accepted as arrays can be looped over. -/
theorem iterate?_of_opens_array {l : Level} {v : Value} (hl : l.type = .string "array")
    (h : l.Opens .standard v) : v.iterate? ≠ none := by
  have htyped := h.typed
  rw [hl] at htyped
  have hkind : v.kind = .array := by
    have hrun : (TypeTable.standard.check v (.string "array")) =
        .require (v.kind == .array) (.notOfKind .array) := rfl
    rw [hrun, Run.succeeds_require] at htyped
    simpa using htyped
  intro hnone
  rw [Value.iterate?_eq_members? hkind] at hnone
  have hmembers := Value.kind_eq_array_iff.1 hkind
  rw [hnone] at hmembers
  cases hmembers

/-- **Without a library a check fails for the value or for want of one**, if the pattern has no
unsound string patterns: nothing else is looped over or called. -/
theorem isPlain_of_fails {P : Value} {p : Pattern} {v : Value} {f : Failure}
    (h : Fails .standard p v f) (hr : Pattern.read .standard P = .ok p)
    (hs : BuiltSoundly .standard P) : f.IsPlain := by
  induction h generalizing P with
  | level hrefuses =>
    cases hrefuses with
    | type _ _ _ h => exact isPlain_of_check_standard (isKnown_level_of_sound hr hs) h
    | _ => exact .mismatch _ _
  | notIterable hopens hv => exact absurd hv (iterate?_of_opens_array (type_of_elements hr) hopens)
  | element hopens _ _ _ ih =>
    obtain ⟨E, hE, hpart⟩ := isPart_of_read hr (.element 0)
    exact (ih hE (hs.part hpart)).under _
  | notCallable hopens | raised hopens | contents hopens =>
    exact absurd hopens (not_opens_observable (type_of_contents hr hs))
  | blocked => exact .mismatch _ _
  | field _ hmem _ _ ih =>
    obtain ⟨F, hF, hpart⟩ := isPart_of_read hr (.field hmem)
    exact (ih hF (hs.part hpart)).within _

/-- **Without a library a check against texts and mappings succeeds or ends with a report**, where
what the pattern holds can be written in messages. -/
theorem check_standard_ok_or_reported {P : Value} (hw : P.isWrittenOut = true)
    (hP : P.isShowable = true) (v : Value) (name : Option String) :
    (Engine.check .standard v P name).result = .ok () ∨
      ∃ r, (Engine.check .standard v P name).result = .error (.reported r) := by
  rw [Engine.result_check]
  cases ho : (check .standard v P).outcome name with
  | ok u => exact .inl rfl
  | error e =>
    refine .inr ?_
    obtain ⟨f, hf, rfl⟩ := Run.outcome_eq_error_iff.1 ho
    cases hread : Pattern.read .standard P with
    | ok p =>
      rw [check_of_verify hread] at hf
      have hplain := isPlain_of_fails (fails_of_check hf) hread (builtSoundly_of_isWrittenOut P hw)
      obtain ⟨r, hr⟩ := hplain.exists_report (labelOf name)
      exact ⟨r, by rw [hr]⟩
    | error d =>
      rw [check_of_verify_error hread] at hf
      cases hf
      -- the defect is the first one
      rcases wellFormed_or_firstDefect .standard P with hwell | ⟨d', hd'⟩
      · obtain ⟨p, hp⟩ := exists_read_of_wellFormed hwell
        cases hread.symm.trans hp
      · cases hread.symm.trans (read_of_firstDefect hd' hw)
        rw [Failure.problem, Finding.problem, Defect.problem, if_pos (hd'.isShowable hP)]
        exact ⟨_, rfl⟩

/-! ## Loading -/

/-- What is asked of a file beforehand. Its path has no null character. If it can be read, it holds
text; if that can be parsed, neither the length of an integer nor the depth of the document stops
the parser, and the document has no integer of more than 4300 digits. -/
structure IsFit (parsers : Parsers) (read : Reader) (path : String) : Prop where
  no_null : '\x00' ∉ path.toList
  is_text : ∀ bytes, read (.ofString path) = .ok bytes → ∃ text, String.fromUTF8? bytes = some text
  not_escaped : ∀ text format e, readText read (.ofString path) = .ok text →
    Format.ofSuffix? (lowerCase (FilePath.ofString path).suffix) = some format →
    parsers format text ≠ .error (.escaped e)
  short_integers : ∀ text format d, readText read (.ofString path) = .ok text →
    Format.ofSuffix? (lowerCase (FilePath.ofString path).suffix) = some format →
    parsers format text = .ok d → d.hasShortIntegers = true

section

variable {parsers : Parsers} {read : Reader} {n : Nat} {path : String} {fault : LoadFault}

/-- A file of plain text is fit for documented parsers, if its document has short integers. -/
theorem isFit_of_plainText {depth : Nat} (hparsers : parsers.Documented depth)
    (h : HoldsPlainText depth read path)
    (hshort : ∀ v m, loadDocument parsers read 0 path = .ok (v, m) → v.isShowable = true) :
    IsFit parsers read path where
  no_null := h.no_null
  is_text := h.is_text
  not_escaped text format e ht _ :=
    hparsers.not_escaped (h.short text ht) (h.shallow text ht) format e
  short_integers text format d ht hformat hd := by
    rw [← d.isShowable_toValueFrom format.sharesNan 0]
    refine hshort _ (d.toValueFrom format.sharesNan 0).2 ?_
    rw [loadDocument_of_text ht]
    exact parseDocument_eq_ok_iff.2 ⟨format, d, hformat, hd, rfl⟩

/-- A document that cannot be had is reported as a fault of the setup. -/
theorem exists_report_of_loadDocument (hfit : IsFit parsers read path)
    (h : loadDocument parsers read n path = .error fault) :
    ∃ message, fault.problem = .config message := by
  rcases reported_or_escapes h with hreport | hescape
  · exact hreport
  generalize fault.problem = e at hescape
  cases hescape with
  | badPath hnull => exact absurd hnull hfit.no_null
  | notText _ hbytes hnone =>
    obtain ⟨text, htext⟩ := hfit.is_text _ hbytes
    cases hnone.symm.trans htext
  | parser ht hformat hparse => exact absurd hparse (hfit.not_escaped _ _ _ ht hformat)

/-- A document that is loaded can be written. -/
theorem isShowable_of_loadDocument {v : Value} {m : Nat} (hfit : IsFit parsers read path)
    (h : loadDocument parsers read n path = .ok (v, m)) : v.isShowable = true := by
  cases ht : readText read (.ofString path) with
  | error fault => cases (loadDocument_of_fault ht).symm.trans h
  | ok text =>
    rw [loadDocument_of_text ht] at h
    obtain ⟨format, d, hformat, hd, hv⟩ := parseDocument_eq_ok_iff.1 h
    have hshow := d.isShowable_toValueFrom format.sharesNan n
    rw [hv] at hshow
    exact hshow.trans (hfit.short_integers _ _ _ ht hformat hd)

theorem isShowable_patternOf {v : Value} (hv : v.isShowable = true) :
    (patternOf v).isShowable = true := by
  unfold patternOf
  split
  · rename_i es hes
    cases hP : Value.lookup patternKey es with
    | none => exact hv
    | some P =>
      have he : v.entries? = some es := Value.entries?_of_editableEntries? hes
      exact (Value.isShowable_of_mem he hv (Value.lookup_mem hP)).2
  · exact hv

end

/-! ## Commands -/

/-- The name of the checked value: the given one unless it is absent or empty, and else the key. -/
def IsLabel (name key label : Option String) : Prop :=
  (∃ given, name = some given ∧ given ≠ "" ∧ label = some given) ∨
    ((name = none ∨ name = some "") ∧ label = key)

theorem isLabel_iff {name key label : Option String} :
    IsLabel name key label ↔ label = nameOr name key := by
  unfold IsLabel nameOr
  split <;> simp_all

section

variable (tools : Tools) (T : TypeTable) (read : Reader) (data pattern : String)
  (name key : Option String)

/-- Whether both documents of a command load, and the check of the selected part ends like this. -/
def ChecksTo (o : Except Problem Unit) : Prop :=
  ∃ d n p m label, loadDocument tools.parsers read Document.firstId data = .ok (d, n) ∧
    loadPattern tools.parsers read n pattern = .ok (p, m) ∧ IsLabel name key label ∧
    (Engine.check T (select d key) p label).result = o

/-- The message of the first fault of the setup in a command: of the document, else of the pattern,
else of the check. -/
inductive FirstFault : String → Prop
  | document {fault message} :
      loadDocument tools.parsers read Document.firstId data = .error fault →
      fault.problem = .config message → FirstFault message
  | pattern {d n fault message} :
      loadDocument tools.parsers read Document.firstId data = .ok (d, n) →
      loadPattern tools.parsers read n pattern = .error fault → fault.problem = .config message →
      FirstFault message
  | check {message path} :
      ChecksTo tools T read data pattern name key
        (.error (.reported ⟨.config, message, path⟩)) →
      FirstFault message

/-- What a verdict says about a command. -/
structure IsVerdictOn (v : Verdict) : Prop where
  exit_mem : v.exit ∈ [0, 1, 2]
  exit_zero_iff : v.exit = 0 ↔ ChecksTo tools T read data pattern name key (.ok ())
  exit_one_iff : v.exit = 1 ↔ ∃ message path,
    ChecksTo tools T read data pattern name key (.error (.reported ⟨.pattern, message, path⟩))
  exit_two_iff : v.exit = 2 ↔ ∃ message, FirstFault tools T read data pattern name key message
  accepted_output : v.exit = 0 → v.output = "OK\n"
  refused_output : ∀ message path,
    ChecksTo tools T read data pattern name key (.error (.reported ⟨.pattern, message, path⟩)) →
    v.output = tools.terminal.print (styled "red" (tools.terminal.escape message))
  fault_output : ∀ message, FirstFault tools T read data pattern name key message →
    v.output = tools.terminal.print (styled "yellow" (tools.terminal.escape message))

end

section

variable {tools : Tools} {T : TypeTable} {read : Reader} {data pattern : String}
  {name key : Option String}

theorem output_accepted {terminal : Terminal} (h : terminal.Documented) :
    (Verdict.accepted terminal).output = "OK\n" :=
  h.shows_word (by decide) (by decide) h.two_le_width

theorem Escape.config_of_reported {e : Escape} {r : Report} (h : e.problem = .reported r) :
    e.problem = .config r.message := by
  cases e <;> cases h

/-- A fault of loading that is reported blames the setup. -/
theorem LoadFault.config_of_reported {fault : LoadFault} {r : Report}
    (h : fault.problem = .reported r) : fault.problem = .config r.message := by
  cases fault with
  | escaped e => exact Escape.config_of_reported h
  | notText | badPath => cases h
  | unreadable | unsupported | malformed => cases h; rfl

theorem result_of_checksTo {o : Except Problem Unit}
    (h : ChecksTo tools T read data pattern name key o) :
    (tryCheck tools.parsers T read data pattern name key).result = o := by
  obtain ⟨d, n, p, m, label, hd, hp, hlabel, rfl⟩ := h
  simp only [tryCheck, hd, hp, isLabel_iff.1 hlabel]

theorem result_of_firstFault {message : String}
    (h : FirstFault tools T read data pattern name key message) :
    ∃ path, (tryCheck tools.parsers T read data pattern name key).result =
      .error (.reported ⟨.config, message, path⟩) := by
  cases h with
  | document hd hmessage => exact ⟨none, by simp only [tryCheck, hd, Trial.ofFault, hmessage]; rfl⟩
  | pattern hd hp hmessage =>
    exact ⟨none, by simp only [tryCheck, hd, hp, Trial.ofFault, hmessage]; rfl⟩
  | check h => exact ⟨_, result_of_checksTo h⟩

/-- A command ends as its check does, or with a fault of loading. -/
theorem checksTo_or_firstFault {o : Except Problem Unit}
    (h : (tryCheck tools.parsers T read data pattern name key).result = o)
    (ho : o = .ok () ∨ ∃ r, o = .error (.reported r)) :
    ChecksTo tools T read data pattern name key o ∨
      ∃ message, o = .error (.config message) ∧
        FirstFault tools T read data pattern name key message := by
  have hfault : ∀ {fault : LoadFault}, .error fault.problem = o →
      ∃ message, fault.problem = .config message := by
    rintro fault rfl
    rcases ho with ho | ⟨r, ho⟩
    · cases ho
    · injection ho with ho
      exact ⟨r.message, LoadFault.config_of_reported ho⟩
  cases hd : loadDocument tools.parsers read Document.firstId data with
  | error fault =>
    simp only [tryCheck, hd, Trial.ofFault] at h
    obtain ⟨message, hm⟩ := hfault h
    exact .inr ⟨message, by rw [← h, hm], .document hd hm⟩
  | ok dn =>
    obtain ⟨d, n⟩ := dn
    cases hp : loadPattern tools.parsers read n pattern with
    | error fault =>
      simp only [tryCheck, hd, hp, Trial.ofFault] at h
      obtain ⟨message, hm⟩ := hfault h
      exact .inr ⟨message, by rw [← h, hm], .pattern hd hp hm⟩
    | ok pm =>
      obtain ⟨p, m⟩ := pm
      simp only [tryCheck, hd, hp] at h
      exact .inl ⟨d, n, p, m, nameOr name key, hd, hp, isLabel_iff.2 rfl, h⟩

theorem checksTo_ok_iff : ChecksTo tools T read data pattern name key (.ok ()) ↔
    (tryCheck tools.parsers T read data pattern name key).result = .ok () := by
  refine ⟨result_of_checksTo, fun h => ?_⟩
  rcases checksTo_or_firstFault h (.inl rfl) with h | ⟨_, h, _⟩
  · exact h
  · cases h

theorem checksTo_refused_iff {message : String} {path : Option String} :
    ChecksTo tools T read data pattern name key (.error (.reported ⟨.pattern, message, path⟩)) ↔
      (tryCheck tools.parsers T read data pattern name key).result =
        .error (.reported ⟨.pattern, message, path⟩) := by
  refine ⟨result_of_checksTo, fun h => ?_⟩
  rcases checksTo_or_firstFault h (.inr ⟨_, rfl⟩) with h | ⟨_, h, _⟩
  · exact h
  · cases h

theorem firstFault_iff {message : String} :
    FirstFault tools T read data pattern name key message ↔
      ∃ path, (tryCheck tools.parsers T read data pattern name key).result =
        .error (.reported ⟨.config, message, path⟩) := by
  refine ⟨result_of_firstFault, fun ⟨path, h⟩ => ?_⟩
  rcases checksTo_or_firstFault h (.inr ⟨_, rfl⟩) with h | ⟨_, h, hfault⟩
  · exact .check h
  · cases h
    exact hfault

/-- The verdict on a command that ends with success or a report. -/
theorem exists_verdict (hterminal : tools.terminal.Documented)
    (h : (tryCheck tools.parsers T read data pattern name key).result = .ok () ∨
      ∃ r, (tryCheck tools.parsers T read data pattern name key).result =
        .error (.reported r)) :
    ∃ v, (tryCheck tools.parsers T read data pattern name key).verdict tools.terminal = .ok v ∧
      IsVerdictOn tools T read data pattern name key v := by
  rcases h with h | ⟨⟨blame, message, path⟩, h⟩
  · refine ⟨_, by rw [Trial.verdict, h], ?_⟩
    exact {
      exit_mem := List.mem_cons_self
      exit_zero_iff := by simp [Verdict.accepted, checksTo_ok_iff, h]
      exit_one_iff := by simp [Verdict.accepted, checksTo_refused_iff, h]
      exit_two_iff := by simp [Verdict.accepted, firstFault_iff, h]
      accepted_output := fun _ => output_accepted hterminal
      refused_output := by simp [checksTo_refused_iff, h]
      fault_output := by simp [firstFault_iff, h] }
  · refine ⟨_, by rw [Trial.verdict, h], ?_⟩
    cases blame with
    | pattern => exact {
      exit_mem := List.mem_cons_of_mem _ List.mem_cons_self
      exit_zero_iff := by simp [Verdict.ofReport, checksTo_ok_iff, h]
      exit_one_iff := by simp [Verdict.ofReport, checksTo_refused_iff, h]
      exit_two_iff := by simp [Verdict.ofReport, firstFault_iff, h]
      accepted_output := by simp [Verdict.ofReport]
      refused_output := by
        intro message' path' h'
        cases h.symm.trans (checksTo_refused_iff.1 h')
        rfl
      fault_output := by simp [firstFault_iff, h] }
    | config => exact {
      exit_mem := List.mem_cons_of_mem _ (List.mem_cons_of_mem _ List.mem_cons_self)
      exit_zero_iff := by simp [Verdict.ofReport, checksTo_ok_iff, h]
      exit_one_iff := by simp [Verdict.ofReport, checksTo_refused_iff, h]
      exit_two_iff := by simp [Verdict.ofReport, firstFault_iff, h]
      accepted_output := by simp [Verdict.ofReport]
      refused_output := by simp [checksTo_refused_iff, h]
      fault_output := by
        intro message' hfault
        obtain ⟨path', h'⟩ := firstFault_iff.1 hfault
        cases h.symm.trans h'
        rfl }

end

/-- Of files that are fit, a command without a library makes something to report at worst. -/
theorem result_ok_or_reported {parsers : Parsers} {read : Reader} {data pattern : String}
    (name key : Option String) (hdata : IsFit parsers read data)
    (hpattern : IsFit parsers read pattern) :
    (tryCheck parsers .standard read data pattern name key).result = .ok () ∨
      ∃ r, (tryCheck parsers .standard read data pattern name key).result =
        .error (.reported r) := by
  cases hd : loadDocument parsers read Document.firstId data with
  | error fault =>
    obtain ⟨message, hm⟩ := exists_report_of_loadDocument hdata hd
    exact .inr ⟨_, by simp only [tryCheck, hd, Trial.ofFault, hm]; rfl⟩
  | ok dn =>
    obtain ⟨d, n⟩ := dn
    cases hp : loadPattern parsers read n pattern with
    | error fault =>
      obtain ⟨message, hm⟩ := exists_report_of_loadDocument hpattern (map_eq_error_iff.1 hp)
      exact .inr ⟨_, by simp only [tryCheck, hd, hp, Trial.ofFault, hm]; rfl⟩
    | ok pm =>
      obtain ⟨p, m⟩ := pm
      have hw : p.isWrittenOut = true := Value.isWrittenOut_of_isData (isData_of_loadPattern hp)
      have hshow : p.isShowable = true := by
        obtain ⟨⟨document, m'⟩, hload, h⟩ := map_eq_ok_iff.1 hp
        cases h
        exact isShowable_patternOf (isShowable_of_loadDocument hpattern hload)
      simp only [tryCheck, hd, hp]
      exact check_standard_ok_or_reported hw hshow (select d key) (nameOr name key)

/-- **Every command ends with a verdict.**  A check asked for on the command line of a process that
has just started, of files that are fit, ends with exit code 0, 1 or 2 and nothing else: 0 where
both documents load and the selected part passes, 1 where they load and the part is refused, and 2
where there is a fault of the setup, of which the first is reported.  For no value can a check
without a library end otherwise than with success or a report, if its pattern is made of document
data and its integers can be written.  Files of plain text are fit for documented parsers. -/
theorem commands_end_with_verdicts (offers : Value → Option Library) :
    (∀ (tools : Tools) (read : Reader) args verbose data pattern name key,
      tools.terminal.Documented →
      tools.arguments args = .ok ⟨verbose, .check data pattern name key⟩ →
      IsFit tools.parsers read data → IsFit tools.parsers read pattern →
      ∃ v, (Session.start.step offers (.command tools read args)).2.1 =
          .verdict ⟨verbose, .check data pattern name key⟩ v ∧
        IsVerdictOn tools .standard read data pattern name key v) ∧
    (∀ P v name, P.isData = true → P.isShowable = true →
      (Engine.check .standard v P name).result = .ok () ∨
        ∃ r, (Engine.check .standard v P name).result = .error (.reported r)) ∧
    ∀ (parsers : Parsers) depth read path, parsers.Documented depth →
      HoldsPlainText depth read path →
      (∀ v m, loadDocument parsers read 0 path = .ok (v, m) → v.isShowable = true) →
      IsFit parsers read path := by
  refine ⟨fun tools read args verbose data pattern name key hterminal hargs hdata hpattern => ?_,
    fun P v name hP hshow =>
      check_standard_ok_or_reported (Value.isWrittenOut_of_isData hP) hshow v name,
    fun parsers depth read path => isFit_of_plainText⟩
  obtain ⟨v, hv, hverdict⟩ :=
    exists_verdict hterminal (result_ok_or_reported name key hdata hpattern)
  refine ⟨v, ?_, hverdict⟩
  have hcurrent : Session.start.current.types = TypeTable.standard := rfl
  simp only [Session.step, Session.command, hargs, hcurrent, hv]

/-! ## A command -/

/-- A text without what stands in brackets. -/
def withoutTags (inTag : Bool) : List Char → List Char
  | [] => []
  | '[' :: r => withoutTags true r
  | ']' :: r => withoutTags false r
  | c :: r => if inTag then withoutTags inTag r else c :: withoutTags inTag r

theorem withoutTags_append_of_isAlpha {s : List Char} (h : s.all Char.isAlpha = true)
    (inTag : Bool) (r : List Char) :
    withoutTags inTag (s ++ r) = (if inTag then [] else s) ++ withoutTags inTag r := by
  induction s with
  | nil => cases inTag <;> rfl
  | cons c s ih =>
    obtain ⟨hc, hs⟩ := Bool.and_eq_true_iff.1 (List.all_cons.symm.trans h)
    have hopen : c ≠ '[' := by rintro rfl; revert hc; decide
    have hclose : c ≠ ']' := by rintro rfl; revert hc; decide
    rw [List.cons_append, withoutTags.eq_4 _ _ _ hopen hclose, ih hs]
    cases inTag <;> rfl

/-- A word in a colour is shown without the colour. -/
theorem withoutTags_styled {colour word : String}
    (hcolour : colour.toList.all Char.isAlpha = true)
    (hword : word.toList.all Char.isAlpha = true) :
    withoutTags false (styled colour word).toList = word.toList := by
  have hspelled : (styled colour word).toList =
      '[' :: (colour.toList ++ ']' :: (word.toList ++ '[' :: '/' :: (colour.toList ++ [']']))) := by
    simp [styled]
  have hclosing : withoutTags true ('/' :: (colour.toList ++ [']'])) = [] :=
    (withoutTags_append_of_isAlpha hcolour true [']']).trans rfl
  rw [hspelled, withoutTags, withoutTags_append_of_isAlpha hcolour, withoutTags,
    withoutTags_append_of_isAlpha hword, withoutTags, hclosing]
  simp

/-- A terminal that leaves out what stands in brackets. -/
def Terminal.plain : Terminal where
  escape message := message
  print markup := String.ofList (withoutTags false markup.toList) ++ "\n"
  width := 80

theorem Terminal.documented_plain : Terminal.plain.Documented where
  shows_word {colour word} hcolour hword _ := by
    have hcolour : colour.toList.all Char.isAlpha = true := by
      simp only [List.mem_cons, List.not_mem_nil, or_false] at hcolour
      rcases hcolour with rfl | rfl | rfl <;> decide
    show String.ofList (withoutTags false (styled colour word).toList) ++ "\n" = _
    rw [withoutTags_styled hcolour hword, String.ofList_toList]
  two_le_width := by decide

/-- A document with a port that is not a number. -/
def portData : String := "\x7b\"port\": \"eighty\"\x7d"

/-- A pattern for ports. -/
def portPattern : String := "pattern = \"number\"\n"

def portFiles : FileStore :=
  (FileStore.empty.add "data.json" (.file portData.toUTF8)).add "port.toml"
    (.file portPattern.toUTF8)

def portCommand : Invocation := ⟨false, .check "data.json" "port.toml" none (some "port")⟩

/-- Tools that know the two files, and how to ask for their check. -/
def Tools.forPorts : Tools where
  arguments args :=
    if args = ["check", "data.json", "-k", "port", "-p", "port.toml"] then .ok portCommand
    else .error 2
  parsers
    | .json, text =>
      if text = portData then .ok (.table [("port", .string "eighty")])
      else .error (.rejected "Expecting value: line 1 column 1 (char 0)")
    | .toml, text =>
      if text = portPattern then .ok (.table [("pattern", .string "number")])
      else .error (.rejected "Invalid statement (at line 1, column 1)")
  terminal := .plain

/-- A file whose text is parsed without trouble is fit. -/
theorem isFit_of_text {parsers : Parsers} {read : Reader} {path text : String} {format : Format}
    {d : Document} (hnull : '\x00' ∉ path.toList) (hread : read (.ofString path) = .ok text.toUTF8)
    (ht : readText read (.ofString path) = .ok text)
    (hformat : Format.ofSuffix? (lowerCase (FilePath.ofString path).suffix) = some format)
    (hparse : parsers format text = .ok d) (hshort : d.hasShortIntegers = true) :
    IsFit parsers read path where
  no_null := hnull
  is_text bytes hbytes := by
    cases hread.symm.trans hbytes
    exact ⟨text, fromUTF8?_toUTF8 text⟩
  not_escaped text' format' e ht' hformat' h := by
    cases ht.symm.trans ht'
    cases hformat.symm.trans hformat'
    cases hparse.symm.trans h
  short_integers text' format' d' ht' hformat' h := by
    cases ht.symm.trans ht'
    cases hformat.symm.trans hformat'
    cases hparse.symm.trans h
    exact hshort

theorem port_is_refused :
    let tools := Tools.forPorts
    let args := ["check", "data.json", "-k", "port", "-p", "port.toml"]
    tools.terminal.Documented ∧ tools.arguments args = .ok portCommand ∧
      IsFit tools.parsers portFiles.read "data.json" ∧
      IsFit tools.parsers portFiles.read "port.toml" ∧
      ∃ v, (Session.start.step (fun _ => none) (.command tools portFiles.read args)).2.1 =
          .verdict portCommand v ∧
        v.exit = 1 ∧ v.output = "port should have number type!\n" := by
  intro tools args
  have hd : readText portFiles.read (.ofString "data.json") = .ok portData :=
    readText_of_toUTF8 (by decide) rfl (by decide)
  have hp : readText portFiles.read (.ofString "port.toml") = .ok portPattern :=
    readText_of_toUTF8 (by decide) rfl (by decide)
  have hjson : lowerCase (FilePath.ofString "data.json").suffix = ".json" := by decide +kernel
  have htoml : lowerCase (FilePath.ofString "port.toml").suffix = ".toml" := by decide +kernel
  have hjsonParse : tools.parsers .json portData = .ok (.table [("port", .string "eighty")]) := by
    simp [tools, Tools.forPorts]
  have htomlParse : tools.parsers .toml portPattern =
      .ok (.table [("pattern", .string "number")]) := by
    simp [tools, Tools.forPorts]
  have hdata : IsFit tools.parsers portFiles.read "data.json" :=
    isFit_of_text (by decide) rfl hd (by rw [hjson]; rfl) hjsonParse rfl
  have hpattern : IsFit tools.parsers portFiles.read "port.toml" :=
    isFit_of_text (by decide) rfl hp (by rw [htoml]; rfl) htomlParse rfl
  have hterminal : tools.terminal.Documented := Terminal.documented_plain
  have hargs : tools.arguments args = .ok portCommand := by
    simp [tools, args, Tools.forPorts]
  obtain ⟨hcommands, -⟩ := commands_end_with_verdicts fun _ => none
  obtain ⟨v, hv, hverdict⟩ := hcommands tools _ _ _ _ _ _ _ hterminal hargs hdata hpattern
  have hresult : (tryCheck tools.parsers .standard portFiles.read "data.json" "port.toml" none
      (some "port")).result =
      .error (.reported ⟨.pattern, "port should have number type!", some "port"⟩) := by
    simp only [tryCheck, loadPattern, loadDocument_of_text hd, loadDocument_of_text hp, hjson,
      htoml, parseDocument, Format.ofSuffix?, hjsonParse, htomlParse, Except.map,
      Engine.result_check]
    decide +kernel
  have hrefused := checksTo_refused_iff.2 hresult
  refine ⟨hterminal, hargs, hdata, hpattern, v, hv, hverdict.exit_one_iff.2 ⟨_, _, hrefused⟩, ?_⟩
  rw [hverdict.refused_output _ _ hrefused]
  decide +kernel

end DataShape
