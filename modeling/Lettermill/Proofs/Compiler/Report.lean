import Lettermill.Compiler.Report
import Lettermill.Proofs.Text.Run
/-! Reports read back. A problem is printed on a line of its own, with blanks around it, and other
lines stand between the problems. The file of a problem ends where its tag opens, since no file holds
a blank and an opening bracket; the tag may hold such brackets, and the message may look like a tag
and a message again. Main statement: of a report exactly the printed problems are read, in order. -/
namespace Lettermill.Report
set_option autoImplicit false
open Text

/-! ## Printed problems -/

/-- The sign between a tag and its message. -/
inductive Dash where
  | long
  | short

def Dash.text : Dash → String
  | .long => "—"
  | .short => "-"

/-- A problem that can be printed on one line and read back. -/
structure Entry where
  number : Nat
  file : String
  tag : String
  message : String
  number_le : number ≤ maxLine
  file_ne : file ≠ ""
  file_line : '\n' ∉ file.toList
  file_open : ¬ [' ', '('] <:+: file.toList
  tag_ne : tag ≠ ""
  tag_line : '\n' ∉ tag.toList
  tag_close : ')' ∉ tag.toList
  message_line : '\n' ∉ message.toList
  message_seen : allBlank message = false

namespace Entry

def printed (e : Entry) (dash : Dash) : String :=
  "Line " ++ toString e.number ++ " of " ++ e.file ++ " (" ++ e.tag ++ ") " ++ dash.text ++ " "
    ++ e.message

/-- What is read of a printed problem: all but the file. -/
def diagnostic (e : Entry) : Diagnostic :=
  { message := trim e.message, line := some e.number, tagName := some e.tag }

end Entry

/-- What stands on a line between the blanks around it. -/
inductive Row where
  | problem (entry : Entry) (dash : Dash)
  | other (text : String) (unbroken : '\n' ∉ text.toList)
      (foreign : ¬ "Line ".toList <+: trimChars text.toList)

def Row.text : Row → String
  | .problem entry dash => entry.printed dash
  | .other text _ _ => text

/-- Blanks that stay on one line. -/
def IsMargin (s : String) : Prop := ∀ c ∈ s.toList, isBlank c = true ∧ c ≠ '\n'

instance (s : String) : Decidable (IsMargin s) := List.decidableBAll _ _

/-- A line of a report. -/
structure Line where
  before : String
  row : Row
  after : String
  before_blank : IsMargin before
  after_blank : IsMargin after

namespace Line

def text (l : Line) : String := l.before ++ l.row.text ++ l.after

/-- The problem that was printed on the line. -/
def problem? (l : Line) : Option Diagnostic :=
  match l.row with
  | .problem entry _ => some entry.diagnostic
  | .other _ _ _ => none

end Line

/-! ## Numbers -/

theorem digits_toDigits (n : Nat) :
    ∀ c ∈ Nat.toDigits 10 n, Text.isDigit c = true ∧ isDecimal c = true ∧ c ≠ '\n' := by
  intro c hc
  have hdigit : c.isDigit = true := Nat.isDigit_of_mem_toDigits (by omega) (by omega) hc
  have hascii : c.toNat < 128 := by
    have hle : c.toNat ≤ 57 := by
      simp only [Char.isDigit, Bool.and_eq_true, decide_eq_true_eq] at hdigit
      exact hdigit.2
    omega
  have hall := of_ascii (p := Char.isDigit)
    (q := fun c => Text.isDigit c && isDecimal c && c != '\n') (by decide +kernel) hascii hdigit
  simpa [and_assoc] using hall

theorem lineNumber?_toDigits {n : Nat} (h : n ≤ maxLine) :
    lineNumber? (Nat.toDigits 10 n) = some n := by
  have hdigits : (Nat.toDigits 10 n).all Text.isDigit = true :=
    List.all_eq_true.mpr fun c hc => (digits_toDigits n c hc).1
  have hvalue : (Nat.toDigits 10 n).foldl (fun n c => n * 10 + (c.toNat - '0'.toNat)) 0 = n := by
    have hread := Nat.ofDigitChars_toDigits (b := 10) (n := n) (by omega) (by omega)
    simp only [Nat.ofDigitChars, Nat.mul_comm 10] at hread
    exact hread
  simp only [lineNumber?, hdigits, hvalue, h, if_true]

/-! ## The tag and the message -/

theorem message?_dash (dash : Dash) {message : List Char} (h : message ≠ []) :
    message? (' ' :: (dash.text.toList ++ ' ' :: message)) = some message := by
  obtain ⟨c, rest, rfl⟩ := List.exists_cons_of_ne_nil h
  cases dash <;> rfl

/-- What follows the file: the tag in its brackets, the dash and the message. -/
def behindFile (tag : String) (dash : Dash) (message : List Char) : List Char :=
  ' ' :: '(' :: (tag.toList ++ ')' :: ' ' :: (dash.text.toList ++ ' ' :: message))

theorem tagged?_behindFile (e : Entry) (dash : Dash) {message : List Char} (h : message ≠ []) :
    tagged? (behindFile e.tag dash message) = some (e.tag.toList, message) := by
  have hcut := cutOnce?_front e.tag_close (' ' :: (dash.text.toList ++ ' ' :: message))
  have hne : e.tag.toList ≠ [] := fun hnil => e.tag_ne (String.toList_eq_nil_iff.mp hnil)
  obtain ⟨c, tag, htag⟩ := List.exists_cons_of_ne_nil hne
  rw [behindFile, tagged?, hcut, htag]
  simp only [message?_dash dash h, Option.map_some]

theorem tagged?_eq_none {cs : List Char} (h : ¬ [' ', '('] <+: cs) : tagged? cs = none := by
  unfold tagged?
  split
  case h_1 rest => exact absurd ⟨rest, rfl⟩ h
  case h_2 => rfl

theorem firstTagged?_file (e : Entry) (dash : Dash) {message : List Char} (h : message ≠ [])
    {file : List Char} (hfile : ¬ [' ', '('] <:+: file) :
    firstTagged? (file ++ behindFile e.tag dash message) = some (e.tag.toList, message) := by
  induction file with
  | nil =>
    have htag := tagged?_behindFile e dash h
    rw [behindFile] at htag
    rw [List.nil_append, behindFile, firstTagged?, htag, Option.some_or]
  | cons c file ih =>
    have hnone : tagged? (c :: (file ++ behindFile e.tag dash message)) = none := by
      refine tagged?_eq_none fun hopen => ?_
      rw [List.cons_prefix_cons] at hopen
      obtain ⟨rfl, hopen⟩ := hopen
      cases file with
      | nil => simp [behindFile] at hopen
      | cons d file =>
        rw [List.cons_append, List.cons_prefix_cons] at hopen
        obtain ⟨rfl, -⟩ := hopen
        exact hfile ⟨[], file, rfl⟩
    have hrest : ¬ [' ', '('] <:+: file := fun hin =>
      hfile (hin.trans (List.suffix_cons c file).isInfix)
    rw [List.cons_append, firstTagged?, hnone, Option.none_or, ih hrest]

/-! ## One line -/

/-- What a printed problem starts with, up to its message. -/
def Entry.head (e : Entry) (dash : Dash) : List Char :=
  "Line ".toList ++ (Nat.toDigits 10 e.number ++ (" of ".toList ++ (e.file.toList
    ++ behindFile e.tag dash [])))

theorem Entry.toList_printed (e : Entry) (dash : Dash) :
    (e.printed dash).toList = e.head dash ++ e.message.toList := by
  have hnumber : (toString e.number).toList = Nat.toDigits 10 e.number := by
    rw [Nat.toString_eq_repr, Nat.toList_repr]
  delta printed head behindFile
  simp only [String.toList_append, hnumber, List.append_assoc, List.cons_append]
  rfl

theorem ofLine?_head (e : Entry) (dash : Dash) {message : List Char} (h : message ≠ []) :
    ofLine? (e.head dash ++ message)
      = some { line := some e.number, tagName := some e.tag,
               message := String.ofList (trimChars message) } := by
  have hwhole : e.head dash ++ message = "Line ".toList ++ (Nat.toDigits 10 e.number
      ++ (" of ".toList ++ (e.file.toList ++ behindFile e.tag dash message))) := by
    delta Entry.head behindFile
    simp only [List.append_assoc, List.cons_append, List.nil_append]
  generalize hbehind : e.file.toList ++ behindFile e.tag dash message = behind at hwhole
  have hdigits : (Nat.toDigits 10 e.number ++ (" of ".toList ++ behind)).takeWhile isDecimal
      = Nat.toDigits 10 e.number :=
    takeWhile_run (fun c hc => (digits_toDigits e.number c hc).2.1)
      ((stops_cons isDecimal ' ' _).mpr (by decide))
  obtain ⟨digit, digits, hcons⟩ := List.exists_cons_of_ne_nil (Nat.toDigits_ne_nil (n := e.number)
    (b := 10))
  obtain ⟨first, file, hfile⟩ := List.exists_cons_of_ne_nil
    fun hnil => e.file_ne (String.toList_eq_nil_iff.mp hnil)
  have htagged : firstTagged? (file ++ behindFile e.tag dash message)
      = some (e.tag.toList, message) := by
    refine firstTagged?_file e dash h fun hin => e.file_open ?_
    rw [hfile]
    exact hin.trans (List.suffix_cons first file).isInfix
  rw [hwhole, ofLine?, after?_eq_some_iff.mpr rfl]
  simp only [hdigits, List.drop_left]
  rw [after?_eq_some_iff.mpr rfl, ← hbehind, hfile, List.cons_append, ← lineNumber?_toDigits
    e.number_le, hcons]
  simp only [htagged, Option.map_some, String.ofList_toList]

theorem trimChars_line {head message before after : List Char} (hhead : Stops isBlank head)
    (hne : head ≠ []) (hmessage : trimRight message ≠ [])
    (hbefore : ∀ c ∈ before, isBlank c = true) (hafter : ∀ c ∈ after, isBlank c = true) :
    trimChars (before ++ (head ++ message) ++ after) = head ++ trimRight message := by
  obtain ⟨back, hcut, hback⟩ := trimRight_append message
  have hend : Stops isBlank (head ++ trimRight message).reverse := by
    have hlast := stops_reverse_trimRight message
    rwa [Stops, List.reverse_append, List.head?_append_of_ne_nil _ (by simpa using hmessage)]
  have hstart : Stops isBlank (head ++ trimRight message) := by
    rwa [Stops, List.head?_append_of_ne_nil _ hne]
  have hwhole : head ++ message = (head ++ trimRight message) ++ back := by
    rw [List.append_assoc, ← hcut]
  rw [trimChars_append_blanks hafter, trimChars_blanks_append hbefore, hwhole,
    trimChars_append_blanks hback, trimChars_of_stops hstart hend]

theorem ofLine?_problem (e : Entry) (dash : Dash) {before after : List Char}
    (hbefore : ∀ c ∈ before, isBlank c = true) (hafter : ∀ c ∈ after, isBlank c = true) :
    ofLine? (trimChars (before ++ (e.printed dash).toList ++ after)) = some e.diagnostic := by
  have hseen : trimRight e.message.toList ≠ [] := by
    intro hnil
    obtain ⟨back, hcut, hback⟩ := trimRight_append e.message.toList
    have hblank : allBlank e.message = true := by
      rw [allBlank, hcut, hnil, List.nil_append]
      exact List.all_eq_true.mpr hback
    rw [e.message_seen] at hblank
    cases hblank
  have hstart : Stops isBlank (e.head dash) := (stops_cons isBlank 'L' _).mpr (by decide)
  rw [e.toList_printed, trimChars_line hstart (List.cons_ne_nil _ _) hseen hbefore hafter,
    ofLine?_head e dash hseen, trimChars_trimRight]
  rfl

theorem ofLine?_other {cs : List Char} (h : ¬ "Line ".toList <+: cs) : ofLine? cs = none := by
  have hnone : after? "Line ".toList cs = none := by
    cases hafter : after? "Line ".toList cs with
    | none => rfl
    | some rest => exact absurd ⟨rest, (after?_eq_some_iff.mp hafter).symm⟩ h
  rw [ofLine?, hnone]

namespace Line

theorem ofLine?_text (l : Line) : ofLine? (trimChars l.text.toList) = l.problem? := by
  have hbefore : ∀ c ∈ l.before.toList, isBlank c = true := fun c hc => (l.before_blank c hc).1
  have hafter : ∀ c ∈ l.after.toList, isBlank c = true := fun c hc => (l.after_blank c hc).1
  rw [text, String.toList_append, String.toList_append, problem?]
  cases l.row with
  | problem entry dash => exact ofLine?_problem entry dash hbefore hafter
  | other text unbroken foreign =>
    rw [trimChars_append_blanks hafter, trimChars_blanks_append hbefore]
    exact ofLine?_other foreign

theorem unbroken_text (l : Line) : '\n' ∉ l.text.toList := by
  have hrow : '\n' ∉ l.row.text.toList := by
    cases l.row with
    | other text unbroken foreign => exact unbroken
    | problem e dash =>
      have hnumber : '\n' ∉ Nat.toDigits 10 e.number := fun hc =>
        (digits_toDigits e.number _ hc).2.2 rfl
      have hdash : '\n' ∉ dash.text.toList := by cases dash <;> decide
      rw [Row.text, e.toList_printed]
      delta Entry.head
      simp [behindFile, hnumber, hdash, e.file_line, e.tag_line, e.message_line]
  rw [text, String.toList_append, String.toList_append, List.mem_append, List.mem_append]
  rintro ((hc | hc) | hc)
  · exact (l.before_blank _ hc).2 rfl
  · exact hrow hc
  · exact (l.after_blank _ hc).2 rfl

/-- A line without anything on it, which stands behind the last line break of a report. -/
def empty : Line where
  before := ""
  row := .other "" (by decide) (by decide)
  after := ""
  before_blank := by decide
  after_blank := by decide

end Line

/-! ## The whole report -/

theorem linesOf_eq (cs : List Char) : linesOf cs = (cutAt '\n' cs).map trimChars := by
  refine List.map_congr_left fun line _ => ?_
  unfold withoutReturn
  split
  case h_1 rest hrest =>
    have hline : line = rest.reverse ++ ['\x0d'] := by
      rw [← List.reverse_cons, ← hrest, List.reverse_reverse]
    rw [hline, trimChars_append_blank (by decide)]
  case h_2 => rfl

theorem filterMap_lines (lines : List Line) :
    (((lines.map fun l => l.text.toList).flatMap (cutAt '\n')).map trimChars).filterMap ofLine?
      = lines.filterMap Line.problem? := by
  induction lines with
  | nil => rfl
  | cons l rest ih =>
    have hline : cutAt '\n' l.text.toList = [l.text.toList] := cutAt_of_not_mem l.unbroken_text
    rw [List.map_cons, List.flatMap_cons, hline, List.singleton_append, List.map_cons,
      List.filterMap_cons, l.ofLine?_text, ih, List.filterMap_cons]

theorem problems_joined (lines : List Line) :
    problems ("\n".intercalate (lines.map Line.text)) = lines.filterMap Line.problem? := by
  have hchars : (lines.map Line.text).map String.toList = lines.map fun l => l.text.toList := by
    rw [List.map_map]
    rfl
  rw [problems, String.toList_intercalate, linesOf_eq, hchars, ← filterMap_lines]
  cases lines with
  | nil => rfl
  | cons l rest =>
    have hcut := cutAt_intercalate '\n'
      (List.cons_ne_nil l.text.toList (rest.map fun l => l.text.toList))
    exact congrArg (fun cut => (cut.map trimChars).filterMap ofLine?) hcut

theorem join_ended (lines : List Line) :
    String.join (lines.map fun l => l.text ++ "\n")
      = "\n".intercalate ((lines ++ [Line.empty]).map Line.text) := by
  induction lines with
  | nil => rfl
  | cons l rest ih =>
    have hne : (rest ++ [Line.empty]).map Line.text ≠ [] := by simp
    rw [List.map_cons, String.join_cons, ih, List.cons_append, List.map_cons]
    obtain ⟨next, others, hnext⟩ := List.exists_cons_of_ne_nil hne
    rw [hnext, String.intercalate_cons_cons]

/-- **Printed problems are read back.** Of a report whose lines are printed problems and others, in any
order and with blanks around each, exactly the problems are read, in order, whether the last line is
ended or not. -/
theorem problems_printed (lines : List Line) :
    problems ("\n".intercalate (lines.map Line.text)) = lines.filterMap Line.problem? ∧
    problems (String.join (lines.map fun l => l.text ++ "\n")) = lines.filterMap Line.problem? := by
  refine ⟨problems_joined lines, ?_⟩
  rw [join_ended, problems_joined, List.filterMap_append]
  exact List.append_nil _

/-- A file and a tag with brackets, a message that looks like a tag and a message, and the largest
number. -/
theorem problems_printed_bracketed :
    problems "note\n \tLine 18446744073709551615 of (x  (a (b) — c (d) - e \x0d\n"
      = [{ message := "c (d) - e", line := some 18446744073709551615, tagName := some "a (b" }] := by
  let entry : Entry :=
    { number := 18446744073709551615, file := "(x ", tag := "a (b", message := "c (d) - e"
      number_le := by decide, file_ne := by decide, file_line := by decide, file_open := by decide
      tag_ne := by decide, tag_line := by decide, tag_close := by decide
      message_line := by decide, message_seen := by decide }
  let note : Line := ⟨"", .other "note" (by decide) (by decide), "", by decide, by decide⟩
  let found : Line := ⟨" \t", .problem entry .long, " \x0d", by decide, by decide⟩
  have hread := (problems_printed [note, found]).2
  have htext : "note\n \tLine 18446744073709551615 of (x  (a (b) — c (d) - e \x0d\n"
      = String.join ([note, found].map fun l => l.text ++ "\n") := by decide +kernel
  rw [htext, hread]
  decide +kernel

end Lettermill.Report
