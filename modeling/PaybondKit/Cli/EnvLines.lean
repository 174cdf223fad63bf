import Mathlib.Data.List.TakeWhile
import PaybondKit.Cli.EnvFile

/-!
# Lines of an env file

The reader looks at the lines with content only, and of these at the first that assigns the
variable. A line that the writer of a run takes for the assignment of a variable is the reader's
line of no other variable.
-/

namespace PaybondKit.Cli

/-- The name of a variable. -/
def IsVariable (name : List Char) : Prop :=
  name ≠ [] ∧ ∀ c ∈ name, c ≠ '=' ∧ isPySpace c = false

/-- The text that the reader finds for a variable. -/
def lookupEnv (body name : List Char) : Option (List Char) :=
  (contentLines body).findSome? (assignedText name)

theorem dropPrefix?_eq_some_iff {text front rest : List Char} :
    text.dropPrefix? front = some rest ↔ text = front ++ rest := by
  rw [List.dropPrefix?_eq_some_iff]
  constructor
  · rintro ⟨front', rfl, hfront⟩
    rw [beq_iff_eq.mp hfront]
  · rintro rfl
    exact ⟨front, rfl, beq_self_eq_true front⟩

/-! ## What a line assigns -/

section Assigned

variable {name other line text : List Char}

theorem assignedText_cases (hassigned : assignedText name line = some text) :
    line = "export ".toList ++ name ++ '=' :: text ∨ line = name ++ '=' :: text := by
  unfold assignedText at hassigned
  rw [Option.or_eq_some_iff, dropPrefix?_eq_some_iff, dropPrefix?_eq_some_iff] at hassigned
  rcases hassigned with hline | ⟨-, hline⟩
  · left
    rw [hline, List.append_assoc, List.append_assoc, List.append_assoc]
    rfl
  · right
    rw [hline, List.append_assoc]
    rfl

theorem assignedText_isSome (hline : line = "export ".toList ++ name ++ '=' :: text ∨
    line = name ++ '=' :: text) : (assignedText name line).isSome = true := by
  unfold assignedText
  rw [Option.isSome_or, Bool.or_eq_true]
  rcases hline with rfl | rfl
  · left
    rw [Option.isSome_iff_exists]
    exact ⟨text, dropPrefix?_eq_some_iff.mpr (by simp)⟩
  · right
    rw [Option.isSome_iff_exists]
    exact ⟨text, dropPrefix?_eq_some_iff.mpr (by simp)⟩

theorem assignedText_nil : assignedText name [] = none := by
  rw [Option.eq_none_iff_forall_not_mem]
  intro text htext
  obtain hline | hline := assignedText_cases htext
  · simp at hline
  · simp at hline

theorem findSome?_content (lines : List (List Char)) :
    ((lines.map stripLine).filter (· ≠ [])).findSome? (assignedText name) =
      lines.findSome? fun line => assignedText name (stripLine line) := by
  induction lines with
  | nil => rfl
  | cons line lines ih =>
      rw [content_cons, List.findSome?_append, ih, List.findSome?_cons]
      by_cases hblank : stripLine line = []
      · rw [if_pos hblank, hblank, assignedText_nil]
        rfl
      · rw [if_neg hblank, List.findSome?_cons]
        cases assignedText name (stripLine line) <;> rfl

theorem readEnvFileValue_eq (body name : List Char) :
    readEnvFileValue body name = (lookupEnv body name).bind envValue := by
  rw [readEnvFileValue, lookupEnv, contentLines, findSome?_content]

/-- The part of a text before its first `=`. -/
theorem append_equals_inj {first second rest rest' : List Char} (hfirst : '=' ∉ first)
    (hsecond : '=' ∉ second) (htext : first ++ '=' :: rest = second ++ '=' :: rest') :
    first = second ∧ rest = rest' := by
  induction first generalizing second with
  | nil =>
      cases second with
      | nil => exact ⟨rfl, (List.cons.inj htext).2⟩
      | cons c second =>
          obtain ⟨rfl, -⟩ := List.cons.inj htext
          exact absurd List.mem_cons_self hsecond
  | cons c first ih =>
      cases second with
      | nil =>
          obtain ⟨rfl, -⟩ := List.cons.inj htext
          exact absurd List.mem_cons_self hfirst
      | cons d second =>
          obtain ⟨rfl, htail⟩ := List.cons.inj htext
          obtain ⟨rfl, rfl⟩ := ih (List.not_mem_of_not_mem_cons hfirst)
            (List.not_mem_of_not_mem_cons hsecond) htail
          exact ⟨rfl, rfl⟩

theorem IsVariable.not_mem (hname : IsVariable name) : '=' ∉ name := fun hmem =>
  (hname.2 _ hmem).1 rfl

/-- A name in capitals begins no `export`. -/
theorem isVariable_of_isNameChar (hne : name ≠ []) (hname : ∀ c ∈ name, isNameChar c = true) :
    IsVariable name := by
  refine ⟨hne, fun c hc => ?_⟩
  have hchar := hname c hc
  refine ⟨?_, ?_⟩
  · rintro rfl
    exact absurd hchar (by decide)
  · simp only [isNameChar, Bool.or_eq_true, Bool.and_eq_true, decide_eq_true_eq] at hchar
    have hrange : 0x30 ≤ c.toNat ∧ c.toNat ≤ 0x5f := by
      rcases hchar with (⟨hlow, hhigh⟩ | ⟨hlow, hhigh⟩) | rfl
      · have hlow : 'A'.toNat ≤ c.toNat := hlow
        have hhigh : c.toNat ≤ 'Z'.toNat := hhigh
        simp at hlow hhigh
        omega
      · have hlow : '0'.toNat ≤ c.toNat := hlow
        have hhigh : c.toNat ≤ '9'.toNat := hhigh
        simp at hlow hhigh
        omega
      · decide
    simp only [isPySpace, Bool.or_eq_false_iff, Bool.and_eq_false_iff, decide_eq_false_iff_not]
    omega

theorem head_ne_e (hname : ∀ c ∈ name, isNameChar c = true) {rest rest' : List Char}
    (hne : name ≠ []) : name ++ rest ≠ 'e' :: rest' := by
  intro htext
  cases name with
  | nil => exact hne rfl
  | cons c name =>
      have hc := hname c List.mem_cons_self
      obtain rfl : c = 'e' := (List.cons.inj htext).1
      exact absurd hc (by decide)

/-- The written line assigns its own variable. -/
theorem assignedText_self (hne : name ≠ []) (hname : ∀ c ∈ name, isNameChar c = true) :
    assignedText name (name ++ '=' :: text) = some text := by
  have hsome := @assignedText_isSome name (name ++ '=' :: text) text (.inr rfl)
  obtain ⟨found, hfound⟩ := Option.isSome_iff_exists.mp hsome
  have hvariable := isVariable_of_isNameChar hne hname
  obtain hline | hline := assignedText_cases hfound
  · exact absurd hline (head_ne_e hname hne)
  · rw [hfound, (append_equals_inj hvariable.not_mem hvariable.not_mem hline).2]

end Assigned

/-! ## What a line is taken for -/

section Taken

variable {name other line text : List Char}

/-- What is skipped is space, or `export` between spaces. -/
theorem skipExport_cases (line : List Char) :
    ∃ lead, (∀ c ∈ lead, isPySpace c = true) ∧
      (line = lead ++ skipExport line ∨
        ∃ gap, gap ≠ [] ∧ (∀ c ∈ gap, isPySpace c = true) ∧
          line = lead ++ ("export".toList ++ (gap ++ skipExport line))) := by
  have hlead : ∀ c ∈ line.takeWhile isPySpace, isPySpace c = true := fun c hc =>
    List.mem_takeWhile_imp hc
  have hsplit : line = line.takeWhile isPySpace ++ line.dropWhile isPySpace :=
    List.takeWhile_append_dropWhile.symm
  refine ⟨line.takeWhile isPySpace, hlead, ?_⟩
  unfold skipExport
  dsimp only
  split
  next c rest hprefix =>
    split
    next hc =>
      right
      refine ⟨c :: rest.takeWhile isPySpace, List.cons_ne_nil _ _, ?_, ?_⟩
      · intro d hd
        rcases List.mem_cons.mp hd with rfl | hd
        · exact hc
        · exact List.mem_takeWhile_imp hd
      · rw [List.cons_append, List.takeWhile_append_dropWhile, ← dropPrefix?_eq_some_iff.mp hprefix]
        exact hsplit
    next => exact .inl hsplit
  next => exact .inl hsplit

/-- The start of a line is skipped up to a variable in capitals. -/
theorem skipExport_of_isNameChar {lead : List Char} (hlead : ∀ c ∈ lead, isPySpace c = true)
    (hne : name ≠ []) (hname : ∀ c ∈ name, isNameChar c = true) :
    skipExport (lead ++ (name ++ text)) = name ++ text ∧
      skipExport (lead ++ ("export ".toList ++ name ++ text)) = name ++ text := by
  have hvariable := isVariable_of_isNameChar hne hname
  have hdrop : (name ++ text).dropWhile isPySpace = name ++ text := by
    cases name with
    | nil => exact absurd rfl hne
    | cons c name =>
        rw [List.cons_append, List.dropWhile_cons_of_neg]
        simp [(hvariable.2 c List.mem_cons_self).2]
  refine ⟨?_, ?_⟩
  · have hplain : (name ++ text).dropPrefix? "export".toList = none := by
      rw [Option.eq_none_iff_forall_not_mem]
      intro rest hrest
      exact head_ne_e hname hne (dropPrefix?_eq_some_iff.mp hrest)
    rw [skipExport, List.dropWhile_append_of_pos hlead, hdrop, hplain]
  · have hexport : ("export ".toList ++ name ++ text).dropPrefix? "export".toList =
        some (' ' :: (name ++ text)) := by
      rw [dropPrefix?_eq_some_iff, List.append_assoc]
      rfl
    have hword : ("export ".toList ++ name ++ text).dropWhile isPySpace =
        "export ".toList ++ name ++ text := rfl
    rw [skipExport, List.dropWhile_append_of_pos hlead, hword, hexport]
    dsimp only
    rw [if_pos (by decide), hdrop]

/-- A line that assigns a variable in capitals is taken for its assignment. -/
theorem assignedName_of_assignedText (hne : name ≠ []) (hname : ∀ c ∈ name, isNameChar c = true)
    (hassigned : assignedText name (stripLine line) = some text) : assignedName line = some name := by
  obtain ⟨trail, htrail⟩ := List.rdropWhile_prefix isPySpace (line.dropWhile isPySpace)
  have hline : line = line.takeWhile isPySpace ++ (stripLine line ++ trail) := by
    rw [stripLine, htrail, List.takeWhile_append_dropWhile]
  have hlead : ∀ c ∈ line.takeWhile isPySpace, isPySpace c = true := fun c hc =>
    List.mem_takeWhile_imp hc
  have hskip : skipExport line = name ++ '=' :: (text ++ trail) := by
    obtain ⟨hplain, hexport⟩ := @skipExport_of_isNameChar name ('=' :: (text ++ trail)) _ hlead hne hname
    rcases assignedText_cases hassigned with hstrip | hstrip
    · rw [hline, hstrip]
      simpa using hexport
    · rw [hline, hstrip]
      simpa using hplain
  have htake : (skipExport line).takeWhile isNameChar = name := by
    rw [hskip, List.takeWhile_append_of_pos hname, List.takeWhile_cons_of_neg (by decide),
      List.append_nil]
  have hdrop : (skipExport line).dropWhile isNameChar = '=' :: (text ++ trail) := by
    rw [hskip, List.dropWhile_append_of_pos hname, List.dropWhile_cons_of_neg (by decide)]
  have hequals : ('=' :: (text ++ trail)).dropWhile isPySpace = '=' :: (text ++ trail) := rfl
  rw [assignedName, htake, hdrop, hequals, if_pos ⟨hne, rfl⟩]

theorem assignedName_eq_some (hassigned : assignedName line = some name) :
    name ≠ [] ∧ (∀ c ∈ name, isNameChar c = true) ∧ ∃ gap rest,
      (∀ c ∈ gap, isPySpace c = true) ∧ skipExport line = name ++ (gap ++ '=' :: rest) := by
  unfold assignedName at hassigned
  dsimp only at hassigned
  split at hassigned
  next hname =>
    obtain ⟨hne, hequals⟩ := hname
    obtain rfl := Option.some.inj hassigned
    refine ⟨hne, fun c hc => List.mem_takeWhile_imp hc, ?_⟩
    obtain ⟨rest, hrest⟩ := List.head?_eq_some_iff.mp hequals
    refine ⟨((skipExport line).dropWhile isNameChar).takeWhile isPySpace, rest,
      fun c hc => List.mem_takeWhile_imp hc, ?_⟩
    rw [← hrest, List.takeWhile_append_dropWhile, List.takeWhile_append_dropWhile]
  next => cases hassigned

theorem not_equals_of_isPySpace {gap : List Char} (hgap : ∀ c ∈ gap, isPySpace c = true) :
    '=' ∉ gap := by
  intro hmem
  exact absurd (hgap _ hmem) (by decide)

/-- Space is no part of a variable. -/
theorem IsVariable.gap_eq_nil {front gap : List Char} (hother : IsVariable (front ++ gap))
    (hgap : ∀ c ∈ gap, isPySpace c = true) : gap = [] := by
  cases gap with
  | nil => rfl
  | cons c gap =>
      have hspace := hgap c List.mem_cons_self
      rw [(hother.2 c (by simp)).2] at hspace
      cases hspace

/-- The line behind what is skipped before it. -/
theorem stripLine_front {lead front rest : List Char} (hlead : ∀ c ∈ lead, isPySpace c = true)
    (hfront : ∀ c ∈ front.head?, isPySpace c = false) (hne : front ≠ []) :
    ∃ rest', stripLine (lead ++ (front ++ '=' :: rest)) = front ++ '=' :: rest' := by
  cases front with
  | nil => exact absurd rfl hne
  | cons c front =>
      have hc : isPySpace c = false := hfront c rfl
      refine ⟨rest.rdropWhile isPySpace, ?_⟩
      rw [stripLine_append_left hlead, stripLine, List.cons_append,
        List.dropWhile_cons_of_neg (by simp [hc]), ← List.cons_append]
      exact rdropWhile_append_cons (by decide) (c :: front) rest

/-- Of another variable the reader finds nothing on such a line. -/
theorem assignedText_other (hassigned : assignedName line = some name) (hother : IsVariable other)
    (hdistinct : other ≠ name) : assignedText other (stripLine line) = none := by
  obtain ⟨hne, hname, gap, rest, hgap, hskip⟩ := assignedName_eq_some hassigned
  have hvariable := isVariable_of_isNameChar hne hname
  have hnot : '=' ∉ name ++ gap := by
    rw [List.mem_append, not_or]
    exact ⟨hvariable.not_mem, not_equals_of_isPySpace hgap⟩
  obtain ⟨lead, hlead, hline⟩ := skipExport_cases line
  rw [hskip] at hline
  rw [Option.eq_none_iff_forall_not_mem]
  intro text htext
  rcases hline with hline | ⟨between, hbetween, hspaces, hline⟩
  · -- the name is the first word of the line
    have hhead : ∀ c ∈ (name ++ gap).head?, isPySpace c = false := by
      intro c hc
      cases name with
      | nil => exact absurd rfl hne
      | cons d name =>
          obtain rfl := Option.some.inj hc
          exact (hvariable.2 _ List.mem_cons_self).2
    obtain ⟨rest', hstrip⟩ := @stripLine_front lead (name ++ gap) rest hlead hhead (by simp [hne])
    rw [hline, ← List.append_assoc name, hstrip] at htext
    obtain htext | htext := assignedText_cases htext
    · rw [List.append_assoc] at htext
      exact head_ne_e hname hne htext
    · obtain ⟨rfl, -⟩ := append_equals_inj hnot hother.not_mem htext
      rw [hother.gap_eq_nil hgap, List.append_nil] at hdistinct
      exact hdistinct rfl
  · obtain ⟨rest', hstrip⟩ := @stripLine_front lead ("export".toList ++ (between ++ (name ++ gap)))
      rest hlead (by rintro c ⟨⟩; decide) (by simp)
    have hwhole : line = lead ++
        ("export".toList ++ (between ++ (name ++ gap)) ++ '=' :: rest) := by
      rw [hline]
      simp only [List.append_assoc]
    rw [hwhole, hstrip] at htext
    cases between with
    | nil => exact hbetween rfl
    | cons c between =>
        have hc : isPySpace c = true := hspaces c List.mem_cons_self
        have hspaces : ∀ d ∈ between, isPySpace d = true := fun d hd =>
          hspaces d (List.mem_cons_of_mem _ hd)
        have hinner : '=' ∉ between ++ (name ++ gap) := by
          rw [List.mem_append, not_or]
          exact ⟨not_equals_of_isPySpace hspaces, hnot⟩
        obtain htext | htext := assignedText_cases htext
        · have htail : (between ++ (name ++ gap)) ++ '=' :: rest' = other ++ '=' :: text := by
            simpa using congrArg (List.drop 7) htext
          obtain ⟨rfl, -⟩ := append_equals_inj hinner hother.not_mem htail
          cases between with
          | nil =>
              rw [List.nil_append] at hother hdistinct
              rw [hother.gap_eq_nil hgap, List.append_nil] at hdistinct
              exact hdistinct rfl
          | cons d between =>
              have hd := hspaces d List.mem_cons_self
              rw [(hother.2 d (by simp)).2] at hd
              cases hd
        · have hword : '=' ∉ "export".toList ++ (c :: between ++ (name ++ gap)) := by
            rw [List.mem_append, not_or, List.cons_append, List.mem_cons, not_or]
            refine ⟨by decide, ?_, hinner⟩
            rintro rfl
            exact absurd hc (by decide)
          obtain ⟨rfl, -⟩ := append_equals_inj hword hother.not_mem htext
          have hspace := (hother.2 c (by simp)).2
          rw [hc] at hspace
          cases hspace

end Taken

end PaybondKit.Cli
