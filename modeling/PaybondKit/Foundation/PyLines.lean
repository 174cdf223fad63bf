import Mathlib.Data.List.DropRight
import PaybondKit.Foundation.PyValue

/-!
# Lines of a text

`str.splitlines` ends a line at any of ten characters and at the pair of a carriage return and a
newline. Every one of them is space, so what the lines hold apart from the space around them is not
changed when the text is stripped.
-/

namespace PaybondKit

/-- The boundaries of `str.splitlines`. -/
def isLineBreak (c : Char) : Bool :=
  let n := c.toNat
  (0x0a ≤ n && n ≤ 0x0d) || (0x1c ≤ n && n ≤ 0x1e) || n = 0x85 || n = 0x2028 || n = 0x2029

/-- `text.splitlines()`. -/
def splitlines : List Char → List (List Char)
  | [] => []
  | '\r' :: '\n' :: rest => [] :: splitlines rest
  | c :: rest =>
      if isLineBreak c then [] :: splitlines rest
      else
        match splitlines rest with
        | [] => [[c]]
        | line :: lines => (c :: line) :: lines

/-- `line.strip()`. -/
def stripLine (line : List Char) : List Char :=
  (line.dropWhile isPySpace).rdropWhile isPySpace

/-- The lines that are not blank, without the space around them. -/
def contentLines (text : List Char) : List (List Char) :=
  ((splitlines text).map stripLine).filter (· ≠ [])

/-- What `str` and the number constructors do with digits. -/
structure TextPlatform where
  isDigit : Char → Bool
  isDecimal : Char → Bool
  parseInt : String → Option Int
  parseFloat : List Char → PyFloat

/-- The text starts and ends with the quote. -/
def quotedBy (quote : Char) (chars : List Char) : Bool :=
  chars.head? = some quote && chars.getLast? = some quote

theorem isPySpace_of_isLineBreak {c : Char} (hbreak : isLineBreak c = true) :
    isPySpace c = true := by
  simp only [isLineBreak, isPySpace, Bool.or_eq_true, Bool.and_eq_true, decide_eq_true_eq]
    at hbreak ⊢
  omega

theorem splitlines_break {c : Char} {rest : List Char} (hbreak : isLineBreak c = true)
    (hpair : c = '\r' → ∀ tail, rest ≠ '\n' :: tail) :
    splitlines (c :: rest) = [] :: splitlines rest := by
  rw [splitlines.eq_3 _ _ fun tail hc hrest => hpair hc tail hrest, if_pos hbreak]

/-- A character in front of the first line. -/
def consFirst (c : Char) : List (List Char) → List (List Char)
  | [] => [[c]]
  | line :: lines => (c :: line) :: lines

theorem splitlines_cons {c : Char} {rest : List Char} (hc : isLineBreak c = false) :
    splitlines (c :: rest) = consFirst c (splitlines rest) := by
  have hreturn : c = '\r' → ∀ tail, rest ≠ '\n' :: tail := by
    rintro rfl
    exact absurd hc (by decide)
  rw [splitlines.eq_3 _ _ fun tail hc hrest => hreturn hc tail hrest, if_neg (by simp [hc])]
  rfl

/-! ## Stripping -/

section Strip

variable {c : Char} {line rest text : List Char}

theorem stripLine_cons (hc : isPySpace c = true) : stripLine (c :: line) = stripLine line := by
  rw [stripLine, List.dropWhile_cons_of_pos hc, stripLine]

theorem stripLine_concat (hc : isPySpace c = true) : stripLine (line ++ [c]) = stripLine line := by
  rw [stripLine, stripLine, List.dropWhile_append]
  split
  next hempty =>
    rw [List.isEmpty_iff.mp hempty, List.dropWhile_cons_of_pos hc, List.dropWhile_nil]
  next => rw [List.rdropWhile_concat_pos _ _ _ hc]

theorem stripLine_append_left {spaces : List Char} (hspaces : ∀ c ∈ spaces, isPySpace c = true) :
    stripLine (spaces ++ line) = stripLine line := by
  rw [stripLine, List.dropWhile_append_of_pos hspaces, stripLine]

theorem stripLine_append_right {spaces : List Char} (hspaces : ∀ c ∈ spaces, isPySpace c = true) :
    stripLine (line ++ spaces) = stripLine line := by
  induction spaces using List.reverseRecOn with
  | nil => rw [List.append_nil]
  | append_singleton spaces c ih =>
      rw [← List.append_assoc, stripLine_concat (hspaces c (by simp)),
        ih fun c hc => hspaces c (List.mem_append_left _ hc)]

theorem stripLine_rdropWhile (line : List Char) :
    stripLine (line.rdropWhile isPySpace) = stripLine line := by
  induction line using List.reverseRecOn with
  | nil => rfl
  | append_singleton rest c ih =>
      by_cases hc : isPySpace c = true
      · rw [List.rdropWhile_concat_pos _ _ _ hc, ih, stripLine_concat hc]
      · rw [List.rdropWhile_concat_neg _ _ _ hc]

theorem stripLine_dropWhile (line : List Char) :
    stripLine (line.dropWhile isPySpace) = stripLine line := by
  rw [stripLine, List.dropWhile_idempotent, stripLine]

theorem stripLine_stripLine (line : List Char) : stripLine (stripLine line) = stripLine line :=
  (stripLine_rdropWhile (line.dropWhile isPySpace)).trans (stripLine_dropWhile line)

/-- Nothing is dropped from the front of a stripped line. -/
theorem not_isPySpace_of_stripLine (hline : stripLine line = c :: rest) : isPySpace c = false := by
  obtain ⟨trail, htrail⟩ := List.rdropWhile_prefix isPySpace (line.dropWhile isPySpace)
  have hdropped : line.dropWhile isPySpace = c :: (rest ++ trail) := by
    rw [← htrail]
    change stripLine line ++ trail = _
    rw [hline, List.cons_append]
  have hhead := List.head?_dropWhile_not isPySpace line
  rw [hdropped] at hhead
  exact hhead

/-- Space is dropped behind a character that is none. -/
theorem rdropWhile_append_cons (hc : isPySpace c = false) (line rest : List Char) :
    (line ++ c :: rest).rdropWhile isPySpace = line ++ c :: rest.rdropWhile isPySpace := by
  induction rest using List.reverseRecOn with
  | nil =>
      rw [List.rdropWhile_nil]
      exact List.rdropWhile_concat_neg _ _ _ (by simp [hc])
  | append_singleton rest d ih =>
      rw [← List.cons_append, ← List.append_assoc]
      by_cases hd : isPySpace d = true
      · rw [List.rdropWhile_concat_pos _ _ _ hd, List.rdropWhile_concat_pos _ _ _ hd, ih]
      · rw [List.rdropWhile_concat_neg _ _ _ hd, List.rdropWhile_concat_neg _ _ _ hd,
          List.append_assoc, List.cons_append]

/-- What is kept of lines that differ in space alone is the same. -/
theorem content_cons (lines : List (List Char)) :
    (((line :: lines).map stripLine).filter (· ≠ [])) =
      (if stripLine line = [] then [] else [stripLine line]) ++
        (lines.map stripLine).filter (· ≠ []) := by
  rw [List.map_cons, List.filter_cons]
  by_cases hblank : stripLine line = [] <;> simp [hblank]

theorem contentLines_cons (hc : isPySpace c = true) :
    contentLines (c :: rest) = contentLines rest := by
  have hnil : stripLine [] = [] := rfl
  cases hbreak : isLineBreak c with
  | true =>
      by_cases hpair : c = '\r' → ∀ tail, rest ≠ '\n' :: tail
      · rw [contentLines, splitlines_break hbreak hpair, content_cons, if_pos hnil]
        rfl
      · simp only [not_forall, not_not] at hpair
        obtain ⟨rfl, tail, rfl⟩ := hpair
        have hnewline : splitlines ('\n' :: tail) = [] :: splitlines tail :=
          splitlines_break (by decide) fun h => absurd h (by decide)
        rw [contentLines, contentLines, splitlines, hnewline]
  | false =>
      have hsingle : stripLine [c] = [] := stripLine_cons hc
      rw [contentLines, splitlines_cons hbreak, contentLines]
      cases splitlines rest with
      | nil =>
          rw [consFirst, content_cons, if_pos hsingle]
          rfl
      | cons line lines => rw [consFirst, content_cons, content_cons, stripLine_cons hc]

/-- The lines of a text and those of the text with one more space. -/
inductive Spaced (c : Char) : List (List Char) → List (List Char) → Prop where
  | same (lines : List (List Char)) : Spaced c lines lines
  | empty (lines : List (List Char)) : Spaced c lines (lines ++ [[]])
  | blank (lines : List (List Char)) : Spaced c lines (lines ++ [[c]])
  | longer (lines : List (List Char)) (last : List Char) :
      Spaced c (lines ++ [last]) (lines ++ [last ++ [c]])

theorem Spaced.cons {lines others : List (List Char)} (hspaced : Spaced c lines others) :
    Spaced c (line :: lines) (line :: others) := by
  cases hspaced with
  | same => exact .same _
  | empty => exact .empty (line :: lines)
  | blank => exact .blank (line :: lines)
  | longer lines last => exact .longer (line :: lines) last

theorem Spaced.consFirst {head : Char} {lines others : List (List Char)}
    (hspaced : Spaced c lines others) : Spaced c (consFirst head lines) (consFirst head others) := by
  cases hspaced with
  | same => exact .same _
  | empty =>
      cases lines with
      | nil => exact .same _
      | cons line lines => exact .empty ((head :: line) :: lines)
  | blank =>
      cases lines with
      | nil => exact .longer [] [head]
      | cons line lines => exact .blank ((head :: line) :: lines)
  | longer lines last =>
      cases lines with
      | nil => exact .longer [] (head :: last)
      | cons line lines => exact .longer ((head :: line) :: lines) last

theorem spaced_splitlines (hc : isPySpace c = true) (text : List Char) :
    Spaced c (splitlines text) (splitlines (text ++ [c])) := by
  induction text using splitlines.induct with
  | case1 =>
      cases hbreak : isLineBreak c with
      | true =>
          rw [List.nil_append, splitlines_break hbreak (by simp)]
          exact .empty []
      | false =>
          rw [List.nil_append, splitlines_cons hbreak]
          exact .blank []
  | case2 rest ih => exact ih.cons
  | case3 head rest hpair hbreak ih =>
      have hpair' : head = '\r' → ∀ tail, rest ≠ '\n' :: tail := fun h tail hrest => hpair tail h hrest
      rw [splitlines_break hbreak hpair']
      by_cases hjoined : head = '\r' ∧ rest = [] ∧ c = '\n'
      · -- the space completes the pair
        obtain ⟨rfl, rfl, rfl⟩ := hjoined
        exact .same [[]]
      · rw [List.cons_append, splitlines_break hbreak]
        · exact ih.cons
        · rintro rfl tail hrest
          cases rest with
          | nil => exact hjoined ⟨rfl, rfl, (List.cons.inj hrest).1⟩
          | cons next rest =>
              obtain ⟨rfl, -⟩ := List.cons.inj hrest
              exact hpair' rfl rest rfl
  | case4 head rest hpair hbreak hnil ih =>
      have hbreak : isLineBreak head = false := Bool.eq_false_iff.mpr hbreak
      rw [List.cons_append, splitlines_cons hbreak, splitlines_cons hbreak]
      exact ih.consFirst
  | case5 head rest hpair hbreak line lines hlines ih =>
      have hbreak : isLineBreak head = false := Bool.eq_false_iff.mpr hbreak
      rw [List.cons_append, splitlines_cons hbreak, splitlines_cons hbreak]
      exact ih.consFirst

theorem contentLines_concat (hc : isPySpace c = true) :
    contentLines (text ++ [c]) = contentLines text := by
  have hspaced := spaced_splitlines hc text
  have hblank : stripLine [c] = [] := stripLine_cons hc
  unfold contentLines
  generalize splitlines text = lines at hspaced
  generalize splitlines (text ++ [c]) = others at hspaced
  cases hspaced with
  | same => rfl
  | empty => simp [List.filter_append, stripLine]
  | blank => simp [List.filter_append, hblank]
  | longer lines last => simp [List.filter_append, stripLine_concat hc]

/-- Stripping a text keeps what its lines hold. -/
theorem contentLines_stripLine (text : List Char) :
    contentLines (stripLine text) = contentLines text := by
  have hleading : ∀ text : List Char,
      contentLines (text.dropWhile isPySpace) = contentLines text := by
    intro text
    induction text with
    | nil => rfl
    | cons c rest ih =>
        rw [List.dropWhile_cons]
        split
        next hc => rw [ih, contentLines_cons hc]
        next => rfl
  have htrailing : ∀ text : List Char,
      contentLines (text.rdropWhile isPySpace) = contentLines text := by
    intro text
    induction text using List.reverseRecOn with
    | nil => rfl
    | append_singleton rest c ih =>
        by_cases hc : isPySpace c = true
        · rw [List.rdropWhile_concat_pos _ _ _ hc, ih, contentLines_concat hc]
        · rw [List.rdropWhile_concat_neg _ _ _ hc]
  rw [stripLine, htrailing, hleading]

theorem prefix_of_splitlines {lines : List (List Char)} (hlines : splitlines text = line :: lines) :
    line <+: text := by
  induction text using splitlines.induct generalizing line lines with
  | case1 => cases hlines
  | case2 rest ih =>
      obtain ⟨rfl, -⟩ := List.cons.inj hlines
      exact List.nil_prefix
  | case3 c rest hpair hbreak ih =>
      rw [splitlines_break hbreak fun h tail hrest => hpair tail h hrest] at hlines
      obtain ⟨rfl, -⟩ := List.cons.inj hlines
      exact List.nil_prefix
  | case4 c rest hpair hbreak hnil ih =>
      rw [splitlines_cons (Bool.eq_false_iff.mpr hbreak), hnil] at hlines
      obtain ⟨rfl, -⟩ := List.cons.inj hlines
      exact List.cons_prefix_cons.mpr ⟨rfl, List.nil_prefix⟩
  | case5 c rest hpair hbreak first others hsplit ih =>
      rw [splitlines_cons (Bool.eq_false_iff.mpr hbreak), hsplit] at hlines
      obtain ⟨rfl, -⟩ := List.cons.inj hlines
      exact List.cons_prefix_cons.mpr ⟨rfl, ih hsplit⟩

/-- The first line with content is where a stripped text begins. -/
theorem prefix_of_contentLines {lines : List (List Char)} (hstripped : stripLine text = text)
    (hlines : contentLines text = line :: lines) : line <+: text := by
  cases text with
  | nil => cases hlines
  | cons c rest =>
      have hc : isPySpace c = false := not_isPySpace_of_stripLine hstripped
      have hbreak : isLineBreak c = false := by
        by_contra hbreak
        rw [isPySpace_of_isLineBreak (Bool.not_eq_false _ ▸ hbreak)] at hc
        cases hc
      have hfirst : ∃ first others, splitlines (c :: rest) = (c :: first) :: others := by
        rw [splitlines_cons hbreak]
        cases splitlines rest with
        | nil => exact ⟨[], [], rfl⟩
        | cons first others => exact ⟨first, others, rfl⟩
      obtain ⟨first, others, hsplit⟩ := hfirst
      have hstrip : stripLine (c :: first) = c :: first.rdropWhile isPySpace := by
        rw [stripLine, List.dropWhile_cons_of_neg (by simp [hc])]
        exact rdropWhile_append_cons hc [] first
      rw [contentLines, hsplit, content_cons, hstrip, if_neg (List.cons_ne_nil _ _),
        List.singleton_append] at hlines
      obtain ⟨rfl, -⟩ := List.cons.inj hlines
      refine List.IsPrefix.trans ?_ (prefix_of_splitlines hsplit)
      exact List.cons_prefix_cons.mpr ⟨rfl, List.rdropWhile_prefix _ _⟩

end Strip

/-! ## Lines of appended texts -/

section Append

variable {text rest : List Char}

theorem splitlines_eq_nil (hlines : splitlines text = []) : text = [] := by
  cases text with
  | nil => rfl
  | cons c text =>
      unfold splitlines at hlines
      split at hlines
      next h => cases h
      next => cases hlines
      next =>
        split at hlines
        next => cases hlines
        next => split at hlines <;> cases hlines

/-- A newline ends a line, which is one more line when the text before it has ended one. -/
theorem splitlines_append_newline (text rest : List Char) :
    ∃ blank, (blank = [] ∨ blank = [[]]) ∧
      splitlines (text ++ '\n' :: rest) = splitlines text ++ blank ++ splitlines rest := by
  induction text using splitlines.induct with
  | case1 =>
      refine ⟨[[]], .inr rfl, ?_⟩
      rw [List.nil_append, splitlines_break (by decide) fun h => absurd h (by decide)]
      rfl
  | case2 text ih =>
      obtain ⟨blank, hblank, hsplit⟩ := ih
      refine ⟨blank, hblank, ?_⟩
      rw [splitlines, List.cons_append, List.cons_append, splitlines, hsplit]
      rfl
  | case3 c text hpair hbreak ih =>
      have hpair' : c = '\r' → ∀ tail, text ≠ '\n' :: tail := fun h tail htext => hpair tail h htext
      rw [splitlines_break hbreak hpair', List.cons_append]
      by_cases hjoined : c = '\r' ∧ text = []
      · -- the newline completes the pair
        obtain ⟨rfl, rfl⟩ := hjoined
        exact ⟨[], .inl rfl, by rw [List.nil_append, splitlines]; rfl⟩
      · obtain ⟨blank, hblank, hsplit⟩ := ih
        refine ⟨blank, hblank, ?_⟩
        rw [splitlines_break hbreak, hsplit]
        · rfl
        · rintro rfl tail htail
          cases text with
          | nil => exact hjoined ⟨rfl, rfl⟩
          | cons next text =>
              obtain ⟨rfl, -⟩ := List.cons.inj htail
              exact hpair' rfl text rfl
  | case4 c text hpair hbreak hnil ih =>
      obtain rfl := splitlines_eq_nil hnil
      have hbreak : isLineBreak c = false := Bool.eq_false_iff.mpr hbreak
      refine ⟨[], .inl rfl, ?_⟩
      rw [List.cons_append, List.nil_append, splitlines_cons hbreak,
        splitlines_break (by decide) fun h => absurd h (by decide), splitlines_cons hbreak]
      rfl
  | case5 c text hpair hbreak line lines hlines ih =>
      have hbreak : isLineBreak c = false := Bool.eq_false_iff.mpr hbreak
      obtain ⟨blank, hblank, hsplit⟩ := ih
      refine ⟨blank, hblank, ?_⟩
      rw [List.cons_append, splitlines_cons hbreak, splitlines_cons hbreak, hsplit, hlines]
      rfl

/-- What stands before a newline and what stands behind it are lines of their own. -/
theorem contentLines_append_newline (text rest : List Char) :
    contentLines (text ++ '\n' :: rest) = contentLines text ++ contentLines rest := by
  obtain ⟨blank, hblank, hsplit⟩ := splitlines_append_newline text rest
  unfold contentLines
  rw [hsplit, List.map_append, List.map_append, List.filter_append, List.filter_append]
  obtain rfl | rfl := hblank
  · simp
  · simp [stripLine]

theorem not_isLineBreak_of_mem_splitlines {line : List Char} (hline : line ∈ splitlines text) :
    ∀ c ∈ line, isLineBreak c = false := by
  induction text using splitlines.induct generalizing line with
  | case1 => cases hline
  | case2 text ih =>
      rw [splitlines] at hline
      rcases List.mem_cons.mp hline with rfl | hline
      · exact fun c hc => by cases hc
      · exact ih hline
  | case3 c text hpair hbreak ih =>
      rw [splitlines_break hbreak fun h tail htext => hpair tail h htext] at hline
      rcases List.mem_cons.mp hline with rfl | hline
      · exact fun c hc => by cases hc
      · exact ih hline
  | case4 c text hpair hbreak hnil ih =>
      rw [splitlines_cons (Bool.eq_false_iff.mpr hbreak), hnil] at hline
      obtain rfl := List.mem_singleton.mp hline
      intro d hd
      obtain rfl := List.mem_singleton.mp hd
      exact Bool.eq_false_iff.mpr hbreak
  | case5 c text hpair hbreak first lines hlines ih =>
      rw [splitlines_cons (Bool.eq_false_iff.mpr hbreak), hlines] at hline
      rcases List.mem_cons.mp hline with rfl | hline
      · intro d hd
        rcases List.mem_cons.mp hd with rfl | hd
        · exact Bool.eq_false_iff.mpr hbreak
        · exact ih (hlines ▸ List.mem_cons_self) d hd
      · exact ih (hlines ▸ List.mem_cons_of_mem _ hline)

theorem splitlines_of_not_isLineBreak (hne : text ≠ [])
    (htext : ∀ c ∈ text, isLineBreak c = false) : splitlines text = [text] := by
  induction text with
  | nil => exact absurd rfl hne
  | cons c text ih =>
      rw [splitlines_cons (htext c List.mem_cons_self)]
      cases text with
      | nil => rfl
      | cons d text =>
          rw [ih (List.cons_ne_nil _ _) fun c hc => htext c (List.mem_cons_of_mem _ hc)]
          rfl

theorem contentLines_of_not_isLineBreak (htext : ∀ c ∈ text, isLineBreak c = false) :
    contentLines text = if stripLine text = [] then [] else [stripLine text] := by
  by_cases hne : text = []
  · subst hne
    rfl
  · rw [contentLines, splitlines_of_not_isLineBreak hne htext, content_cons, List.map_nil,
      List.filter_nil, List.append_nil]

/-- Lines that are joined are read back. -/
theorem contentLines_join {lines : List (List Char)}
    (hlines : ∀ line ∈ lines, ∀ c ∈ line, isLineBreak c = false) :
    contentLines (['\n'].intercalate lines) = (lines.map stripLine).filter (· ≠ []) := by
  induction lines with
  | nil => rfl
  | cons line lines ih =>
      have hfirst := contentLines_of_not_isLineBreak (hlines line List.mem_cons_self)
      cases lines with
      | nil =>
          rw [content_cons, ← hfirst]
          simp [List.intercalate]
      | cons next lines =>
          have hjoin : ['\n'].intercalate (line :: next :: lines) =
              line ++ '\n' :: ['\n'].intercalate (next :: lines) := by
            simp [List.intercalate]
          rw [hjoin, contentLines_append_newline, hfirst, content_cons,
            ih fun line hline => hlines line (List.mem_cons_of_mem _ hline)]

end Append

end PaybondKit
