/-!
# Words and dotted segments

* `isBlank` — the characters that separate words.
* `words` — the maximal runs of characters that are not blank, in order.
* `unwords` — words joined by single spaces; `words_unwords`: they read back.
* `segments` — the parts of a dotted key; a key with n dots has n + 1 of them, empty ones included.
  `segments_append`: a dot joins the parts of two keys.
-/

namespace DataShape

/-- The characters that separate words: the white space of Unicode and the four information
separators U+001C to U+001F. -/
def isBlank (c : Char) : Bool :=
  let n := c.toNat
  (9 ≤ n && n ≤ 13) || (28 ≤ n && n ≤ 32) || n == 0x85 || n == 0xa0 || n == 0x1680 ||
    (0x2000 ≤ n && n ≤ 0x200a) || n == 0x2028 || n == 0x2029 || n == 0x202f || n == 0x205f ||
    n == 0x3000

namespace Text

/-- Puts a character in front of the first word, which it starts when there is none. -/
def consFirst (c : Char) : List (List Char) → List (List Char)
  | [] => [[c]]
  | w :: ws => (c :: w) :: ws

/-- The words of a text. A character that is not blank extends the word that starts right after
it, and is a word of its own before a blank or at the end. -/
def wordsOf : List Char → List (List Char)
  | [] => []
  | c :: cs =>
    if isBlank c then wordsOf cs
    else match cs with
      | [] => [[c]]
      | d :: _ => if isBlank d then [c] :: wordsOf cs else consFirst c (wordsOf cs)

/-- The parts of a text between the occurrences of `sep`. -/
def splitAt (sep : Char) : List Char → List (List Char)
  | [] => [[]]
  | c :: cs => if c = sep then [] :: splitAt sep cs else consFirst c (splitAt sep cs)

theorem splitAt_ne_nil (sep : Char) (s : List Char) : splitAt sep s ≠ [] := by
  cases s with
  | nil => simp [splitAt]
  | cons c cs =>
    simp only [splitAt]
    split
    · simp
    · cases splitAt sep cs <;> simp [consFirst]

/-- Texts with `sep` between them. -/
def joinWith (sep : Char) : List (List Char) → List Char
  | [] => []
  | [w] => w
  | w :: v :: ws => w ++ sep :: joinWith sep (v :: ws)

/-! ## Words read back -/

/-- A word: characters that are not blank, at least one. -/
def IsWord (w : List Char) : Prop := w ≠ [] ∧ ∀ c ∈ w, isBlank c = false

theorem wordsOf_cons_blank {c : Char} (h : isBlank c = true) (s : List Char) :
    wordsOf (c :: s) = wordsOf s := by
  cases s <;> simp [wordsOf, h]

/-- A word before a blank, or at the end, is the first word. -/
theorem wordsOf_append {w : List Char} (hw : IsWord w) {s : List Char}
    (hs : ∀ c ∈ s.head?, isBlank c = true) : wordsOf (w ++ s) = w :: wordsOf s := by
  obtain ⟨hne, hw⟩ := hw
  induction w with
  | nil => exact absurd rfl hne
  | cons c w ih =>
    have hc : isBlank c = false := hw c (by simp)
    cases w with
    | nil =>
      cases s with
      | nil => simp [wordsOf, hc]
      | cons d s => simp [wordsOf, hc, hs d (by simp)]
    | cons d w =>
      have hd : isBlank d = false := hw d (by simp)
      have := ih (by simp) fun x hx => hw x (by simp [hx])
      simp only [List.cons_append] at this ⊢
      rw [wordsOf]
      simp [hc, hd, this, consFirst]

/-- Joined words read back. -/
theorem wordsOf_joinWith {ws : List (List Char)} (h : ∀ w ∈ ws, IsWord w) :
    wordsOf (joinWith ' ' ws) = ws := by
  induction ws with
  | nil => rfl
  | cons w ws ih =>
    cases ws with
    | nil =>
      have := wordsOf_append (h w (by simp)) (s := []) (by simp)
      simpa [joinWith, wordsOf] using this
    | cons v ws =>
      have hb : isBlank ' ' = true := by decide
      have hs : ∀ c ∈ (' ' :: joinWith ' ' (v :: ws)).head?, isBlank c = true := by
        simp [hb]
      rw [joinWith, wordsOf_append (h w (by simp)) hs, wordsOf_cons_blank hb,
        ih fun x hx => h x (by simp [hx])]

theorem isWord_of_mem_wordsOf (s : List Char) : ∀ w ∈ wordsOf s, IsWord w := by
  induction s with
  | nil => simp [wordsOf]
  | cons c s ih =>
    by_cases hb : isBlank c = true
    · rwa [wordsOf_cons_blank hb]
    · have hc : isBlank c = false := by simpa using hb
      cases s with
      | nil => simp [wordsOf, IsWord, hc]
      | cons d s =>
        rw [wordsOf]
        simp only [hc, Bool.false_eq_true, if_false]
        split
        · simpa [IsWord, hc] using ih
        · cases hws : wordsOf (d :: s) with
          | nil => simp [consFirst, IsWord, hc]
          | cons v vs =>
            rw [hws] at ih
            simp only [consFirst, List.mem_cons, forall_eq_or_imp] at ih ⊢
            exact ⟨⟨by simp, by simpa [hc] using ih.1.2⟩, ih.2⟩

/-! ## Parts of a joined text -/

theorem splitAt_append (sep : Char) (s t : List Char) :
    splitAt sep (s ++ sep :: t) = splitAt sep s ++ splitAt sep t := by
  induction s with
  | nil => simp [splitAt]
  | cons c s ih =>
    simp only [List.cons_append, splitAt, ih]
    split
    · simp
    · cases hs : splitAt sep s with
      | nil => exact absurd hs (splitAt_ne_nil sep s)
      | cons w ws => simp [consFirst]

theorem splitAt_of_notMem {sep : Char} {s : List Char} (h : sep ∉ s) : splitAt sep s = [s] := by
  induction s with
  | nil => rfl
  | cons c s ih =>
    obtain ⟨hc, hs⟩ := not_or.1 fun hm => h (List.mem_cons.2 hm)
    rw [splitAt, if_neg (Ne.symm hc), ih hs]
    rfl

end Text

/-- The words of a text. -/
def words (s : String) : List String := (Text.wordsOf s.toList).map String.ofList

/-- Words joined by single spaces. -/
def unwords (ws : List String) : String := String.ofList (Text.joinWith ' ' (ws.map String.toList))

/-- The parts of a dotted key. -/
def segments (key : String) : List String := (Text.splitAt '.' key.toList).map String.ofList

theorem isWord_of_mem_words {s w : String} (h : w ∈ words s) : Text.IsWord w.toList := by
  obtain ⟨cs, hcs, rfl⟩ := List.mem_map.1 h
  rw [String.toList_ofList]
  exact Text.isWord_of_mem_wordsOf _ cs hcs

/-- Words joined by single spaces read back. -/
theorem words_unwords {ws : List String} (h : ∀ w ∈ ws, Text.IsWord w.toList) :
    words (unwords ws) = ws := by
  have hws : ∀ w ∈ ws.map String.toList, Text.IsWord w := by simpa using h
  rw [words, unwords, String.toList_ofList, Text.wordsOf_joinWith hws]
  simp [Function.comp_def]

/-- A word and a space in front of a text add the word to its words. -/
theorem words_append {w : String} (hw : Text.IsWord w.toList) (s : String) :
    words (w ++ " " ++ s) = w :: words s := by
  have hb : isBlank ' ' = true := by decide
  have hspace : " ".toList = [' '] := rfl
  have hs : ∀ c ∈ (' ' :: s.toList).head?, isBlank c = true := by simp [hb]
  simp only [words, String.toList_append, hspace, List.append_assoc, List.singleton_append]
  rw [Text.wordsOf_append hw hs, Text.wordsOf_cons_blank hb, List.map_cons, String.ofList_toList]

/-- The parts of two keys joined by a dot are those of both. -/
theorem segments_append (k l : String) : segments (k ++ "." ++ l) = segments k ++ segments l := by
  simp [segments, String.toList_append, Text.splitAt_append]

/-- A key without a dot is its only part. -/
theorem segments_of_no_dot {key : String} (h : '.' ∉ key.toList) : segments key = [key] := by
  simp [segments, Text.splitAt_of_notMem h]

theorem segments_ne_nil (key : String) : segments key ≠ [] := by
  simp [segments, Text.splitAt_ne_nil]

end DataShape
