import DataShape.Document.Load
import DataShape.Proofs.Reading
import Mathlib.Data.List.Count

/-!
# How loading ends

* `FilePath.mem_text_ofString_iff` — a path is normalised without losing characters but slashes and
  dots.
* `readText_of_null`, …, `readText_of_bytes` — the ways in which the reading of a file ends.
* `loadDocument_of_text` — a document is its text, parsed.
* `Parsers.Documented`, `HoldsPlainText` — when parsers escape, and files that give them no cause.
* `Reported`, `Escapes` — loads that end with a document or a fault of the setup, and the ways in
  which loads end otherwise.
* `loads_reported_unless_escape` — **loads end with a document or a fault of the setup, but in these
  ways**, and files of plain text leave none of them.

How files are read and how texts are parsed is arbitrary throughout.
-/

namespace DataShape

/-! ## Paths -/

theorem Text.exists_mem_splitAt_iff {sep c : Char} {s : List Char} (hc : c ≠ sep) :
    (∃ w ∈ splitAt sep s, c ∈ w) ↔ c ∈ s := by
  induction s with
  | nil => simp [splitAt]
  | cons d s ih =>
    rw [splitAt]
    split
    · rename_i hd
      subst hd
      simp [ih, hc]
    · cases hs : splitAt sep s with
      | nil => exact absurd hs (splitAt_ne_nil sep s)
      | cons u us =>
        rw [hs] at ih
        rw [List.mem_cons, ← ih]
        simp [consFirst, or_assoc]

namespace FilePath

theorem mem_intercalate_slash_iff {c : Char} {ps : List String} (hc : c ≠ '/') :
    c ∈ (String.intercalate "/" ps).toList ↔ ∃ p ∈ ps, c ∈ p.toList := by
  induction ps with
  | nil => simp
  | cons p ps ih =>
    cases ps with
    | nil => simp
    | cons q qs =>
      rw [String.intercalate_cons_of_ne_nil (List.cons_ne_nil q qs), String.toList_append,
        String.toList_append, List.mem_append, List.mem_append, ih]
      simp [hc]

theorem mem_rootOf {c : Char} {s : List Char} (h : c ∈ (rootOf s).toList) : c = '/' := by
  unfold rootOf at h
  split at h <;> simp_all

variable {c : Char} {s : String}

theorem mem_parts_iff (hslash : c ≠ '/') (hdot : c ≠ '.') :
    (∃ p ∈ (ofString s).parts, c ∈ p.toList) ↔ c ∈ s.toList := by
  rw [← Text.exists_mem_splitAt_iff hslash]
  constructor
  · rintro ⟨p, hp, hcp⟩
    obtain ⟨w, hw, rfl⟩ := List.mem_map.1 (List.mem_filter.1 hp).1
    exact ⟨w, hw, by simpa using hcp⟩
  · rintro ⟨w, hw, hcw⟩
    -- the part is neither empty nor a single dot
    have hcw : c ∈ (String.ofList w).toList := by simpa using hcw
    refine ⟨.ofList w, List.mem_filter.2 ⟨List.mem_map_of_mem hw, ?_⟩, hcw⟩
    simp only [Bool.and_eq_true, bne_iff_ne]
    refine ⟨fun h => ?_, fun h => ?_⟩
    · rw [h] at hcw
      simp at hcw
    · rw [h] at hcw
      exact hdot (by simpa using hcw)

/-- The text of a path has the characters of the path, but for slashes and dots. -/
theorem mem_text_ofString_iff (hslash : c ≠ '/') (hdot : c ≠ '.') :
    c ∈ (ofString s).text.toList ↔ c ∈ s.toList := by
  rw [← mem_parts_iff (s := s) hslash hdot, text]
  split
  · rename_i h
    rw [h.2]
    simpa using hdot
  · rw [String.toList_append, List.mem_append, mem_intercalate_slash_iff hslash]
    exact or_iff_right fun h => hslash (mem_rootOf h)

theorem contains_null_ofString :
    (ofString s).text.contains '\x00' = decide ('\x00' ∈ s.toList) := by
  rw [String.contains_char_eq]
  exact decide_eq_decide.2 (mem_text_ofString_iff (by decide) (by decide))

end FilePath

/-! ## Stages -/

section

variable {parsers : Parsers} {read : Reader} {n : Nat} {path : String}

theorem readText_of_null (h : '\x00' ∈ path.toList) :
    readText read (.ofString path) = .error .badPath := by
  rw [readText, FilePath.contains_null_ofString, decide_eq_true h, if_pos rfl]

section

variable (hnull : '\x00' ∉ path.toList)

include hnull

theorem readText_of_no_null :
    readText read (.ofString path) =
      match read (.ofString path) with
      | .error fault => .error (.unreadable (FilePath.ofString path).text fault)
      | .ok bytes =>
        match String.fromUTF8? bytes with
        | none => .error .notText
        | some text => .ok (String.ofList (unifyLineEnds text.toList)) := by
  rw [readText, FilePath.contains_null_ofString, decide_eq_false hnull]
  rfl

theorem readText_of_bytes {bytes : ByteArray} {text : String}
    (hbytes : read (.ofString path) = .ok bytes) (ht : String.fromUTF8? bytes = some text) :
    readText read (.ofString path) = .ok (String.ofList (unifyLineEnds text.toList)) := by
  simp only [readText_of_no_null hnull, hbytes, ht]

theorem readText_of_not_text {bytes : ByteArray} (hbytes : read (.ofString path) = .ok bytes)
    (ht : String.fromUTF8? bytes = none) : readText read (.ofString path) = .error .notText := by
  simp only [readText_of_no_null hnull, hbytes, ht]

end

/-- A document that cannot be read is not loaded. -/
theorem loadDocument_of_fault {fault : LoadFault}
    (h : readText read (.ofString path) = .error fault) :
    loadDocument parsers read n path = .error fault := by
  simp only [loadDocument, h, bind, Except.bind]

/-- A document is loaded by reading a text, and parsing it in the format of the suffix. -/
theorem loadDocument_of_text {text : String} (ht : readText read (.ofString path) = .ok text) :
    loadDocument parsers read n path =
      parseDocument parsers n text (lowerCase (FilePath.ofString path).suffix) := by
  simp only [loadDocument, ht, bind, Except.bind]

end

/-! ## Parsers -/

/-- Whether a text has somewhere more digits in a row than an integer may have. Underscores between
digits do not end a row. -/
def HasLongNumber (s : List Char) : Prop :=
  ∃ row, row <:+: s ∧ (∀ c ∈ row, isDigit c = true ∨ c = '_') ∧
    maxIntegerDigits < row.countP isDigit

/-- The brackets that a text opens: it is not nested more deeply than that. -/
def openings (s : List Char) : Nat := s.countP fun c => c == '[' || c == '\x7b'

/-- What is documented of the parsers: besides documents and decode errors there are only the
refusal to convert integers with too many digits, and errors for documents that are nested to some
depth. -/
structure Parsers.Documented (parsers : Parsers) (depth : Nat) : Prop where
  hasLongNumber {format : Format} {text : String} :
    parsers format text = .error (.escaped .valueError) → HasLongNumber text.toList
  depth_le {format : Format} {text : String} :
    parsers format text = .error (.escaped .recursionError) → depth ≤ openings text.toList
  ne_other {format : Format} {text message : String} :
    parsers format text ≠ .error (.escaped (.other message))

/-- Whether a file, if it can be read, holds text without long numbers and with few brackets. -/
structure HoldsPlainText (depth : Nat) (read : Reader) (path : String) : Prop where
  no_null : '\x00' ∉ path.toList
  is_text : ∀ bytes, read (.ofString path) = .ok bytes → ∃ text, String.fromUTF8? bytes = some text
  short : ∀ text, readText read (.ofString path) = .ok text → ¬ HasLongNumber text.toList
  shallow : ∀ text, readText read (.ofString path) = .ok text → openings text.toList < depth

/-- On a text with few brackets and without long numbers, a documented parser returns a document or
a decode error. -/
theorem Parsers.Documented.not_escaped {parsers : Parsers} {depth : Nat}
    (h : parsers.Documented depth) {text : String} (hshort : ¬ HasLongNumber text.toList)
    (hshallow : openings text.toList < depth) (format : Format) (e : Escape) :
    parsers format text ≠ .error (.escaped e) := by
  intro hparse
  cases e with
  | valueError => exact hshort (h.hasLongNumber hparse)
  | recursionError => exact absurd (h.depth_le hparse) (Nat.not_le.2 hshallow)
  | other message => exact h.ne_other hparse

/-! ## Ends -/

/-- Whether a load ends with what was asked for, or with a fault of the setup. -/
def Reported {α : Type} (r : Except LoadFault α) : Prop :=
  ∀ fault, r = .error fault → ∃ message, fault.problem = .config message

/-- The ways in which loading a file ends otherwise. -/
inductive Escapes (parsers : Parsers) (read : Reader) (path : String) : Problem → Prop
  /-- The path has a null character. -/
  | badPath : '\x00' ∈ path.toList → Escapes parsers read path .badValue
  /-- What the file holds is not text. -/
  | notText {bytes} : '\x00' ∉ path.toList → read (.ofString path) = .ok bytes →
      String.fromUTF8? bytes = none → Escapes parsers read path .notText
  /-- The parser ends with an error that is not the decode error of its format. -/
  | parser {text format e} : readText read (.ofString path) = .ok text →
      Format.ofSuffix? (lowerCase (FilePath.ofString path).suffix) = some format →
      parsers format text = .error (.escaped e) → Escapes parsers read path e.problem

section

variable {parsers : Parsers} {read : Reader} {n : Nat} {path : String}

theorem Escape.problem_ne_config (e : Escape) (message : String) :
    e.problem ≠ .config message := by
  cases e <;> exact fun h => Problem.noConfusion h

/-- A text that is not parsed is reported, or its parser escapes. -/
theorem reported_or_escaped_of_parseDocument {text suffix : String} {fault : LoadFault}
    (h : parseDocument parsers n text suffix = .error fault) :
    (∃ message, fault.problem = .config message) ∨
      ∃ format e, Format.ofSuffix? suffix = some format ∧
        parsers format text = .error (.escaped e) ∧ fault = .escaped e := by
  unfold parseDocument at h
  cases hformat : Format.ofSuffix? suffix with
  | none =>
    simp only [hformat] at h
    cases h
    exact .inl ⟨_, rfl⟩
  | some format =>
    simp only [hformat] at h
    cases hparse : parsers format text with
    | ok d =>
      simp only [hparse] at h
      cases h
    | error parseFault =>
      simp only [hparse] at h
      cases parseFault with
      | rejected message =>
        cases h
        exact .inl ⟨_, rfl⟩
      | escaped e =>
        cases h
        exact .inr ⟨format, e, rfl, hparse, rfl⟩

/-- **A document that cannot be had** is reported as a fault of the setup, or escapes. -/
theorem reported_or_escapes {fault : LoadFault}
    (h : loadDocument parsers read n path = .error fault) :
    (∃ message, fault.problem = .config message) ∨ Escapes parsers read path fault.problem := by
  by_cases hnull : '\x00' ∈ path.toList
  · cases (loadDocument_of_fault (readText_of_null hnull)).symm.trans h
    exact .inr (.badPath hnull)
  have hread := @readText_of_no_null read path hnull
  split at hread
  · cases (loadDocument_of_fault hread).symm.trans h
    exact .inl ⟨_, rfl⟩
  rename_i bytes hbytes
  split at hread
  · rename_i htext
    cases (loadDocument_of_fault hread).symm.trans h
    exact .inr (.notText hnull hbytes htext)
  rw [loadDocument_of_text hread] at h
  rcases reported_or_escaped_of_parseDocument h with hreport | ⟨format, e, hformat, hparse, rfl⟩
  · exact .inl hreport
  · exact .inr (.parser hread hformat hparse)

theorem loadDocument_of_escapes {e : Problem} (h : Escapes parsers read path e) :
    ∃ fault, loadDocument parsers read n path = .error fault ∧ fault.problem = e := by
  cases h with
  | badPath hnull => exact ⟨_, loadDocument_of_fault (readText_of_null hnull), rfl⟩
  | notText hnull hbytes ht =>
    exact ⟨_, loadDocument_of_fault (readText_of_not_text hnull hbytes ht), rfl⟩
  | @parser text format e ht hformat hparse =>
    refine ⟨.escaped e, ?_, rfl⟩
    simp only [loadDocument_of_text ht, parseDocument, hformat, hparse]

theorem not_escapes_config (message : String) :
    ¬ Escapes parsers read path (.config message) := by
  intro h
  generalize he : Problem.config message = e at h
  cases h with
  | badPath | notText => cases he
  | @parser _ _ e => exact e.problem_ne_config message he.symm

theorem reported_map_iff {α β : Type} {r : Except LoadFault α} {f : α → β} :
    Reported (r.map f) ↔ Reported r := by
  simp only [Reported, map_eq_error_iff]

theorem reported_loadDocument_iff :
    Reported (loadDocument parsers read n path) ↔ ∀ e, ¬ Escapes parsers read path e := by
  constructor
  · intro h e hescape
    obtain ⟨fault, hload, rfl⟩ := loadDocument_of_escapes (n := n) hescape
    obtain ⟨message, hmessage⟩ := h fault hload
    rw [hmessage] at hescape
    exact not_escapes_config message hescape
  · intro h fault hload
    exact (reported_or_escapes hload).resolve_right (h _)

/-- Plain text leaves no way to escape. -/
theorem not_escapes_of_plainText {depth : Nat} (hparsers : parsers.Documented depth)
    (h : HoldsPlainText depth read path) (e : Problem) : ¬ Escapes parsers read path e := by
  intro hescape
  cases hescape with
  | badPath hnull => exact h.no_null hnull
  | notText _ hbytes hnone =>
    obtain ⟨text, ht⟩ := h.is_text _ hbytes
    cases hnone.symm.trans ht
  | parser ht _ hparse =>
    exact hparsers.not_escaped (h.short _ ht) (h.shallow _ ht) _ _ hparse

end

/-- **Loads are reported unless they escape.**  However files are read and parsed, and whatever they
hold, a document or a pattern is loaded or a fault of the setup is reported, but for paths with null
characters, files that are not text, and errors of a parser that are not its decode error.  There a
load always ends otherwise.  Documented parsers escape from no file of plain text. -/
theorem loads_reported_unless_escape (parsers : Parsers) (read : Reader) (n : Nat) (path : String) :
    (Reported (loadDocument parsers read n path) ↔ ∀ e, ¬ Escapes parsers read path e) ∧
    (Reported (loadPattern parsers read n path) ↔ ∀ e, ¬ Escapes parsers read path e) ∧
    (∀ e, Escapes parsers read path e →
      (loadDocument parsers read n path).mapError LoadFault.problem = .error e ∧
        (loadPattern parsers read n path).mapError LoadFault.problem = .error e) ∧
    ∀ depth, parsers.Documented depth → HoldsPlainText depth read path →
      ∀ e, ¬ Escapes parsers read path e := by
  refine ⟨reported_loadDocument_iff, reported_map_iff.trans reported_loadDocument_iff,
    fun e h => ?_, fun depth => not_escapes_of_plainText⟩
  obtain ⟨fault, hload, rfl⟩ := loadDocument_of_escapes (n := n) h
  have hpattern : loadPattern parsers read n path = .error fault := map_eq_error_iff.2 hload
  rw [hload, hpattern]
  exact ⟨rfl, rfl⟩

theorem fromUTF8?_toUTF8 (s : String) : String.fromUTF8? s.toUTF8 = some s := by
  simp only [String.fromUTF8?, String.toUTF8_eq_toByteArray, dif_pos s.isValidUTF8]
  rfl

/-- A text with single line feeds is read as it is. -/
theorem unifyLineEnds_of_notMem {s : List Char} (h : '\r' ∉ s) : unifyLineEnds s = s := by
  fun_induction unifyLineEnds s with
  | case1 => rfl
  | case2 => exact absurd List.mem_cons_self h
  | case3 => exact absurd List.mem_cons_self h
  | case4 c r _ _ ih => rw [ih fun hr => h (List.mem_cons_of_mem _ hr)]

theorem readText_of_toUTF8 {read : Reader} {path text : String} (hnull : '\x00' ∉ path.toList)
    (hread : read (.ofString path) = .ok text.toUTF8) (hlines : '\r' ∉ text.toList) :
    readText read (.ofString path) = .ok text := by
  rw [readText_of_bytes hnull hread (fromUTF8?_toUTF8 text), unifyLineEnds_of_notMem hlines,
    String.ofList_toList]

/-- A short text has no long number. -/
theorem not_hasLongNumber_of_length {s : List Char} (h : s.length ≤ maxIntegerDigits) :
    ¬ HasLongNumber s := by
  rintro ⟨row, hrow, -, hlong⟩
  have hdigits := List.countP_le_length (p := isDigit) (l := row)
  have hlength := hrow.length_le
  omega

/-- Parsers that find a value missing at the end of every text. -/
def Parsers.wanting : Parsers := fun _ _ =>
  .error (.rejected "Invalid value (at end of document)")

theorem Parsers.documented_wanting (depth : Nat) : Parsers.wanting.Documented depth where
  hasLongNumber h := by cases h
  depth_le h := by cases h
  ne_other h := by cases h

/-- A document that breaks off. -/
def brokenFile : FileStore := FileStore.empty.add "a.toml" (.file "a = ".toUTF8)

theorem broken_file_is_reported :
    Parsers.wanting.Documented 1 ∧ HoldsPlainText 1 brokenFile.read "a.toml" ∧
      Reported (loadDocument Parsers.wanting brokenFile.read 0 "a.toml") ∧
      loadDocument Parsers.wanting brokenFile.read 0 "a.toml" =
        .error (.malformed ".toml" "Invalid value (at end of document)") := by
  have hread : brokenFile.read (.ofString "a.toml") = .ok "a = ".toUTF8 := rfl
  have htext : readText brokenFile.read (.ofString "a.toml") = .ok "a = " :=
    readText_of_toUTF8 (by decide) hread (by decide)
  have hplain : HoldsPlainText 1 brokenFile.read "a.toml" := {
    no_null := by decide
    is_text := fun bytes hbytes => by
      cases hread.symm.trans hbytes
      exact ⟨_, fromUTF8?_toUTF8 _⟩
    short := fun text ht => by
      cases htext.symm.trans ht
      exact not_hasLongNumber_of_length (by decide)
    shallow := fun text ht => by
      cases htext.symm.trans ht
      decide }
  have hparsers := Parsers.documented_wanting 1
  obtain ⟨hreported, -, -, hfit⟩ :=
    loads_reported_unless_escape Parsers.wanting brokenFile.read 0 "a.toml"
  refine ⟨hparsers, hplain, hreported.2 (hfit 1 hparsers hplain), ?_⟩
  have hsuffix : lowerCase (FilePath.ofString "a.toml").suffix = ".toml" := by decide +kernel
  rw [loadDocument_of_text htext, hsuffix]
  rfl

/-! ## Loads that are not reported -/

/-- A single file in JSON. -/
def jsonFile (bytes : ByteArray) : FileStore := FileStore.empty.add "d.json" (.file bytes)

theorem read_jsonFile (bytes : ByteArray) :
    (jsonFile bytes).read (.ofString "d.json") = .ok bytes := rfl

/-- A text at which the parser escapes is not loaded. -/
theorem loadDocument_jsonFile_of_escaped {parsers : Parsers} {text : String} {e : Escape}
    (hlines : '\r' ∉ text.toList) (h : parsers .json text = .error (.escaped e)) (n : Nat) :
    loadDocument parsers (jsonFile text.toUTF8).read n "d.json" = .error (.escaped e) := by
  have htext := readText_of_toUTF8 (by decide) (read_jsonFile text.toUTF8) hlines
  have hsuffix : lowerCase (FilePath.ofString "d.json").suffix = ".json" := by decide +kernel
  rw [loadDocument_of_text htext, hsuffix]
  simp only [parseDocument, Format.ofSuffix?, h]

/-- One digit more than an integer may have. -/
def longInteger : String := .ofList (List.replicate (maxIntegerDigits + 1) '1')

theorem return_notMem_longInteger : '\r' ∉ longInteger.toList := by
  rw [longInteger, String.toList_ofList]
  intro h
  cases List.eq_of_mem_replicate h

/-- Whatever the parsers, a byte that is no text is not reported; nor is an integer that the
parser refuses to convert. -/
theorem byte_and_long_integer_are_not_reported :
    (∀ parsers, loadDocument parsers (jsonFile ⟨#[0xff]⟩).read 0 "d.json" = .error .notText) ∧
      (∀ parsers : Parsers, parsers .json longInteger = .error (.escaped .valueError) →
        loadDocument parsers (jsonFile longInteger.toUTF8).read 0 "d.json" =
          .error (.escaped .valueError)) ∧
      ∀ parsers, ¬ ∀ (read : Reader) (n : Nat) (path : String),
        Reported (loadDocument parsers read n path) := by
  have hbyte (parsers : Parsers) :
      loadDocument parsers (jsonFile ⟨#[0xff]⟩).read 0 "d.json" = .error .notText :=
    loadDocument_of_fault (readText_of_not_text (by decide) (read_jsonFile _) (by decide +kernel))
  refine ⟨hbyte, fun parsers h =>
    loadDocument_jsonFile_of_escaped return_notMem_longInteger h 0, fun parsers h => ?_⟩
  obtain ⟨message, hmessage⟩ := h _ _ _ _ (hbyte parsers)
  cases hmessage

end DataShape
