import Mathlib
import Schemata.Proofs.Decode.Refusal
import Schemata.Proofs.Number
import Schemata.Report

/-!
# The character that a report marks

An error is located by octets, and a report marks a character. `Report.FallsOn` says which character
an offset in octets falls on. A report shows which one it marks (`Report.drawExcerpt_inj`), and that
is the one whose index is the offset; `report_marks` tells in which texts the two are the same.
-/

namespace Schemata

open String (utf8Len)

namespace Report

/-! ## Offsets in octets -/

/-- The character that an offset falls on: the offset is in its octets, or it is the last character
and the offset is at the end or past it. -/
structure FallsOn (chars : List Char) (offset k : Nat) : Prop where
  inside : k < chars.length
  starts : utf8Len (chars.take k) ≤ offset
  ends : k + 1 < chars.length → offset < utf8Len (chars.take (k + 1))

/-- All characters have one octet. -/
def Narrow (chars : List Char) : Prop := ∀ c ∈ chars, c.utf8Size = 1

theorem length_le_utf8Len : ∀ chars : List Char, chars.length ≤ utf8Len chars
  | [] => Nat.le_refl 0
  | c :: rest => by
    have first := c.utf8Size_pos
    have later := length_le_utf8Len rest
    rw [List.length_cons, String.utf8Len_cons]
    omega

theorem utf8Len_eq_length_iff {chars : List Char} :
    utf8Len chars = chars.length ↔ Narrow chars := by
  induction chars with
  | nil => exact iff_of_true rfl nofun
  | cons c rest ih =>
    have first := c.utf8Size_pos
    have later := length_le_utf8Len rest
    rw [Narrow, List.forall_mem_cons, ← Narrow, ← ih, String.utf8Len_cons, List.length_cons]
    omega

namespace FallsOn

variable {chars : List Char} {offset k : Nat}

theorem exists_of_ne_nil {chars : List Char} (h : chars ≠ []) (offset : Nat) :
    ∃ k, FallsOn chars offset k := by
  induction chars generalizing offset with
  | nil => exact absurd rfl h
  | cons c rest ih =>
    by_cases first : rest = [] ∨ offset < c.utf8Size
    · refine ⟨0, Nat.zero_lt_succ _, Nat.zero_le _, fun more => ?_⟩
      rcases first with rfl | within
      · simp at more
      · simpa using within
    · have past : c.utf8Size ≤ offset := by omega
      obtain ⟨k, inside, starts, ends⟩ := ih (fun none => first (.inl none)) (offset - c.utf8Size)
      refine ⟨k + 1, Nat.succ_lt_succ inside, ?_, fun more => ?_⟩
      · rw [List.take_succ_cons, String.utf8Len_cons]
        omega
      · have within := ends (Nat.lt_of_succ_lt_succ more)
        rw [List.take_succ_cons, String.utf8Len_cons]
        omega

theorem not_lt {j : Nat} (h : FallsOn chars offset k) (hj : FallsOn chars offset j) : ¬ k < j := by
  intro lt
  have within := h.ends (Nat.lt_of_le_of_lt lt hj.inside)
  have shorter : utf8Len (chars.take (k + 1)) ≤ utf8Len (chars.take j) :=
    String.utf8Len_le_of_prefix (List.take_prefix_take_left lt)
  have starts := hj.starts
  omega

theorem unique {j : Nat} (h : FallsOn chars offset k) (hj : FallsOn chars offset j) : j = k :=
  Nat.le_antisymm (Nat.not_lt.mp (h.not_lt hj)) (Nat.not_lt.mp (hj.not_lt h))

theorem length_take (h : FallsOn chars offset k) : (chars.take k).length = k := by
  rw [List.length_take]
  exact Nat.min_eq_left (Nat.le_of_lt h.inside)

/-- Each character before has an octet at least. -/
theorem le_offset (h : FallsOn chars offset k) : k ≤ offset := by
  have octets := length_le_utf8Len (chars.take k)
  have starts := h.starts
  rw [h.length_take] at octets
  omega

/-- The offset, as an index, is the character that it falls on if no character before has more than
one octet and the offset is that of its first. -/
theorem min_eq_iff (h : FallsOn chars offset k) :
    min offset (chars.length - 1) = k ↔
      k + 1 = chars.length ∨ Narrow (chars.take k) ∧ utf8Len (chars.take k) = offset := by
  have le := h.le_offset
  have inside := h.inside
  have starts := h.starts
  have octets := length_le_utf8Len (chars.take k)
  rw [← utf8Len_eq_length_iff]
  rw [h.length_take] at octets ⊢
  omega

theorem min_eq_of_narrow (h : FallsOn chars offset k) (narrow : Narrow chars) :
    min offset (chars.length - 1) = k := by
  rw [h.min_eq_iff]
  by_cases last : k + 1 = chars.length
  · exact .inl last
  · have before : Narrow (chars.take k) := fun c hc => narrow c (List.mem_of_mem_take hc)
    have through : Narrow (chars.take (k + 1)) := fun c hc => narrow c (List.mem_of_mem_take hc)
    have inside := h.inside
    have starts := h.starts
    have ends := h.ends (by omega)
    rw [utf8Len_eq_length_iff.mpr before, h.length_take] at starts
    rw [utf8Len_eq_length_iff.mpr through, List.length_take] at ends
    refine .inr ⟨before, ?_⟩
    rw [utf8Len_eq_length_iff.mpr before, h.length_take]
    omega

end FallsOn

/-! ## Lines -/

/-- The first line starts where the reading does. -/
theorem linesFrom_eq_cons {start position : Nat} {pending chars : List Char}
    (h : pending ≠ [] ∨ chars ≠ []) :
    ∃ text later, linesFrom start position pending chars = { start, text } :: later := by
  fun_induction linesFrom start position pending chars with
  | case1 start position pending none => simp_all
  | case2 start position pending some => exact ⟨_, _, rfl⟩
  | case3 => exact ⟨_, _, rfl⟩
  | case4 => exact ⟨_, _, rfl⟩
  | case5 start position pending c rest _ _ ih => exact ih (.inl (by simp))

/-- The line that is found starts at the character or before, and the number is its place among the
lines. -/
theorem lineAt_spec {offset m : Nat} {line : Line} :
    ∀ {found : List Line} {number : Nat}, (∀ first ∈ found.head?, first.start ≤ offset) →
      lineAt number offset found = some (m, line) →
        line.start ≤ offset ∧ number ≤ m ∧ found[m - number]? = some line := by
  intro found
  induction found with
  | nil => exact fun _ h => nomatch h
  | cons first rest ih =>
    intro number starts h
    have here : first.start ≤ offset := starts first rfl
    cases rest with
    | nil =>
      cases h
      exact ⟨here, Nat.le_refl _, by simp⟩
    | cons after rest =>
      by_cases further : after.start ≤ offset
      · rw [lineAt, if_pos further] at h
        obtain ⟨le, number_le, get⟩ := ih (by simpa using further) h
        have shifted : m - number = m - (number + 1) + 1 := by omega
        exact ⟨le, by omega, by rw [shifted, List.getElem?_cons_succ, get]⟩
      · rw [lineAt, if_neg further] at h
        cases h
        exact ⟨here, Nat.le_refl _, by simp⟩

theorem exists_lineAt : ∀ {found : List Line} (number offset : Nat), found ≠ [] →
    ∃ m line, lineAt number offset found = some (m, line)
  | [], _, _, h => absurd rfl h
  | [line], number, _, _ => ⟨number, line, rfl⟩
  | line :: after :: rest, number, offset, _ => by
    by_cases further : after.start ≤ offset
    · rw [lineAt, if_pos further]
      exact exists_lineAt (number + 1) offset (List.cons_ne_nil _ _)
    · rw [lineAt, if_neg further]
      exact ⟨number, line, rfl⟩

/-- A character is on a line, and the number of the line tells which. -/
theorem exists_place {source : List Char} (h : source ≠ []) (offset : Nat) :
    ∃ m line, lineAt 1 offset (lines source) = some (m, line) ∧ line.start ≤ offset ∧
      (lines source)[m - 1]? = some line := by
  obtain ⟨text, later, first⟩ := @linesFrom_eq_cons 0 0 [] source (.inr h)
  have nonempty : lines source ≠ [] := by
    rw [lines, first]
    exact List.cons_ne_nil _ _
  have starts : ∀ line ∈ (lines source).head?, line.start ≤ offset := by
    rw [lines, first]
    rintro _ ⟨⟩
    exact Nat.zero_le _
  obtain ⟨m, line, found⟩ := exists_lineAt 1 offset nonempty
  obtain ⟨le, -, get⟩ := lineAt_spec starts found
  exact ⟨m, line, found, le, get⟩

/-! ## Excerpts -/

/-- What stands before the first separator of a text, and after it, is told by the text. -/
theorem append_separator_inj {a b x y separator : String} {c : Char}
    (single : separator.toList = [c]) (ha : c ∉ a.toList) (hb : c ∉ b.toList)
    (h : a ++ (separator ++ x) = b ++ (separator ++ y)) : a = b ∧ x = y := by
  -- What follows may hold the separator too, so `List.append_cons_inj_of_notMem` does not apply.
  have before {as xs : List Char} (hs : c ∉ as) : (as ++ c :: xs).takeWhile (· != c) = as := by
    have other : ∀ d ∈ as, (d != c) = true := fun d hd => bne_iff_ne.mpr fun eq => hs (eq ▸ hd)
    simp [List.takeWhile_append_of_pos other]
  have spelled : a.toList ++ c :: x.toList = b.toList ++ c :: y.toList := by
    simpa [single] using congrArg String.toList h
  have same : a.toList = b.toList := by
    rw [← before ha, spelled, before hb]
  rw [same, List.append_cancel_left_eq, List.cons.injEq] at spelled
  exact ⟨String.toList_inj.mp same, String.toList_inj.mp spelled.2⟩

theorem notMem_toString {c : Char} (h : c.isDigit = false) (n : Nat) :
    c ∉ (toString n).toList := by
  intro mem
  rw [Nat.toString_eq_repr, Nat.toList_repr] at mem
  rw [isDigit_toDigits n c mem] at h
  cases h

theorem notMem_spaces {c : Char} (h : c ≠ ' ') (n : Nat) : c ∉ (spaces n).toList := by
  rw [spaces, String.toList_ofList]
  exact fun mem => h (List.eq_of_mem_replicate mem)

theorem frame_eq (text : String) :
    frame text = "\x1b" ++ ("[38;5;246m" ++ (text ++ "\x1b[0m")) := by
  have code : "\x1b[" ++ "38;5;246" ++ "m" = "\x1b" ++ "[38;5;246m" := by decide +kernel
  rw [frame, paint, code, String.append_assoc, String.append_assoc]

/-- What stands before the number of the line in an excerpt, after the first escape. -/
def opening (path : String) : String :=
  "[38;5;246m" ++ ("╭" ++ ("\x1b[0m" ++ (frame "─" ++ (frame "[" ++ (path ++ ":")))))

theorem drawExcerpt_eq (path label : String) {source : List Char} {offset m : Nat} {line : Line}
    (h : lineAt 1 offset (lines source) = some (m, line)) :
    ∃ n rest, drawExcerpt path label source offset =
      spaces n ++ ("\x1b" ++ (opening path ++ (toString m ++
        (":" ++ (toString (offset - line.start + 1) ++ ("\x1b" ++ rest)))))) := by
  simp only [drawExcerpt, h, opening, frame_eq, String.append_assoc]
  exact ⟨_, _, rfl⟩

/-- **An excerpt shows which character is marked**, by the number of its line and its column. -/
theorem drawExcerpt_inj {path label : String} {source : List Char} {i j : Nat} (h : source ≠ []) :
    drawExcerpt path label source i = drawExcerpt path label source j ↔ i = j := by
  constructor
  · intro same
    obtain ⟨m, line, found, le, get⟩ := exists_place h i
    obtain ⟨m', line', found', le', get'⟩ := exists_place h j
    obtain ⟨n, rest, drawn⟩ := drawExcerpt_eq path label found
    obtain ⟨n', rest', drawn'⟩ := drawExcerpt_eq path label found'
    rw [drawn, drawn'] at same
    have escape : "\x1b".toList = ['\x1b'] := rfl
    have colon : ":".toList = [':'] := rfl
    obtain ⟨-, same⟩ := append_separator_inj escape (notMem_spaces (by decide) n)
      (notMem_spaces (by decide) n') same
    rw [String.append_right_inj] at same
    obtain ⟨number, same⟩ := append_separator_inj colon (notMem_toString (by decide) m)
      (notMem_toString (by decide) m') same
    obtain ⟨column, -⟩ := append_separator_inj escape (notMem_toString (by decide) _)
      (notMem_toString (by decide) _) same
    rw [Nat.repr_injective number, get', Option.some.injEq] at get
    have column := Nat.repr_injective column
    rw [get] at le' column
    omega
  · rintro rfl
    rfl

end Report

/-! ## Reports -/

namespace DecodeError

/-- The report of an error with the mark on a character of the source. -/
def reportAt (e : DecodeError) (source : String) (k : Nat) : String :=
  Report.red "Error:" ++ " " ++ e.message ++ "\n" ++
    Report.drawExcerpt e.path e.label source.toList k

/-- The report of an error marks a character of the source. -/
def Marks (e : DecodeError) (source : String) (k : Nat) : Prop :=
  e.report source = e.reportAt source k

variable {e : DecodeError} {source : String} {span : Nat × Nat}

theorem report_of_span (located : e.span = some span) (h : source.toList ≠ []) :
    e.report source = e.reportAt source (min span.1 (source.toList.length - 1)) := by
  have some : source.toList.isEmpty = false := List.isEmpty_eq_false_iff.mpr h
  simp only [report, located, some]
  rfl

theorem marks_iff (located : e.span = some span) (h : source.toList ≠ []) {k : Nat} :
    e.Marks source k ↔ min span.1 (source.toList.length - 1) = k := by
  rw [Marks, report_of_span located h, reportAt, reportAt, String.append_right_inj]
  exact Report.drawExcerpt_inj h

/-- Only a fault of the text is located, at one offset, and a blank text has none. -/
theorem located_of_decode {path : String} {octets : List UInt8}
    (h : decode path octets = .error e) (located : e.span = some span) :
    octets.all isAsciiBlank = false ∧ span.2 = span.1 + 1 := by
  obtain ⟨-, refused⟩ := decode_eq_error_iff.mp h
  obtain ⟨file, fault⟩ := e
  cases refused with
  | malformed filled malformed =>
    obtain ⟨index, -, rfl⟩ := Option.map_eq_some_iff.mp located
    exact ⟨filled, rfl⟩
  | entry expanded first =>
    obtain ⟨before, entry, after, -, -, refused⟩ := first
    cases refused <;> cases located
  | _ => cases located

end DecodeError

/-- **Which character the report of a located error marks.** It is the one that the offset falls on
exactly if that is the last one, or else the offset is that of its first octet and every character
before has one octet. The mark is never before that character. -/
theorem report_marks {path source : String} {e : DecodeError} {span : Nat × Nat}
    (h : decode path source.toUTF8.toList = .error e) (located : e.span = some span) :
    ∃ k, Report.FallsOn source.toList span.1 k ∧
      (∀ j, Report.FallsOn source.toList span.1 j → j = k) ∧
      (e.Marks source k ↔ k + 1 = source.toList.length ∨
        Report.Narrow (source.toList.take k) ∧ utf8Len (source.toList.take k) = span.1) ∧
      (Report.Narrow source.toList → e.Marks source k) ∧
      ∃ i, i = min span.1 (source.toList.length - 1) ∧ k ≤ i ∧
        Report.labelSpan source.toList.length span = (i, i + 1) ∧
        ∀ j, e.Marks source j ↔ j = i := by
  obtain ⟨filled, single⟩ := DecodeError.located_of_decode h located
  have nonempty : source.toList ≠ [] := by
    intro none
    rw [String.toList_eq_nil_iff.mp none] at filled
    exact absurd filled (by decide +kernel)
  obtain ⟨k, falls⟩ := Report.FallsOn.exists_of_ne_nil nonempty span.1
  have marks {j : Nat} := DecodeError.marks_iff (k := j) located nonempty
  refine ⟨k, falls, fun j hj => falls.unique hj, ?right, ?narrow, ?mark⟩
  case right =>
    rw [marks]
    exact falls.min_eq_iff
  case narrow =>
    intro narrow
    rw [marks]
    exact falls.min_eq_of_narrow narrow
  case mark =>
    have le := falls.le_offset
    have inside := falls.inside
    refine ⟨min span.1 (source.toList.length - 1), rfl, by omega, ?_, fun j => ?_⟩
    · have last : max (min span.1 (source.toList.length - 1) + 1)
          (min span.2 source.toList.length) = min span.1 (source.toList.length - 1) + 1 := by omega
      rw [Report.labelSpan, last]
    · rw [marks]
      exact eq_comm

/-- A text with a colon too many, behind a character of two octets. -/
def strayColon : String := "é: a: b\n"

/-- Whether a file is refused for something at an offset. -/
def refusedAt (octets : List UInt8) (offset : Nat) : Bool :=
  match decode "t.yaml" octets with
  | .error e => e.span == some (offset, offset + 1)
  | .ok _ => false

theorem exists_error_of_refusedAt {octets : List UInt8} {offset : Nat}
    (h : refusedAt octets offset) :
    ∃ e, decode "t.yaml" octets = .error e ∧ e.span = some (offset, offset + 1) := by
  unfold refusedAt at h
  split at h
  · next e he => exact ⟨e, he, beq_iff_eq.mp h⟩
  · cases h

theorem strayColon_refused :
    ∃ e, decode "t.yaml" strayColon.toUTF8.toList = .error e ∧ e.span = some (5, 6) :=
  exists_error_of_refusedAt (by decide +kernel)

theorem report_marks_strayColon :
    ∃ e, decode "t.yaml" strayColon.toUTF8.toList = .error e ∧ e.span = some (5, 6) ∧
      ∃ k, Report.FallsOn strayColon.toList 5 k ∧
        (∀ j, Report.FallsOn strayColon.toList 5 j → j = k) ∧
        (e.Marks strayColon k ↔ k + 1 = strayColon.toList.length ∨
          Report.Narrow (strayColon.toList.take k) ∧ utf8Len (strayColon.toList.take k) = 5) ∧
        (Report.Narrow strayColon.toList → e.Marks strayColon k) ∧
        ∃ i, i = min 5 (strayColon.toList.length - 1) ∧ k ≤ i ∧
          Report.labelSpan strayColon.toList.length (5, 6) = (i, i + 1) ∧
          ∀ j, e.Marks strayColon j ↔ j = i := by
  obtain ⟨e, he, located⟩ := strayColon_refused
  exact ⟨e, he, located, report_marks he located⟩

/-- **The mark is one character too far on**: the second colon is meant, and the space after it is
marked. -/
theorem not_marks_strayColon :
    ∃ e, decode "t.yaml" strayColon.toUTF8.toList = .error e ∧ e.span = some (5, 6) ∧
      strayColon.toList[4]? = some ':' ∧ Report.FallsOn strayColon.toList 5 4 ∧
      ¬ e.Marks strayColon 4 ∧ strayColon.toList[5]? = some ' ' ∧ e.Marks strayColon 5 := by
  obtain ⟨e, he, located⟩ := strayColon_refused
  have spelled : strayColon.toList = ['é', ':', ' ', 'a', ':', ' ', 'b', '\n'] := by decide +kernel
  have nonempty : strayColon.toList ≠ [] := by
    rw [spelled]
    exact List.cons_ne_nil _ _
  refine ⟨e, he, located, by rw [spelled]; rfl, ?falls, ?missed, by rw [spelled]; rfl, ?marked⟩
  case falls =>
    rw [spelled]
    exact ⟨by decide, by decide, by decide⟩
  case missed =>
    rw [DecodeError.marks_iff located nonempty, spelled]
    decide
  case marked =>
    rw [DecodeError.marks_iff located nonempty, spelled]
    decide

end Schemata
