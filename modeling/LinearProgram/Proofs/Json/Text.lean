import LinearProgram.Json.Reader
import LinearProgram.Json.Writer
import LinearProgram.Proofs.Json.Literal
import LinearProgram.Proofs.Json.Numeral

/-!
# Written values are read back

`spell` lists the tokens of a value in the order of its text.  It is the meeting
point of the two machines of the reader: the scanner turns the text of a value
into these tokens, and the machine of places turns these tokens into the value.

A word or a number does not end by itself.  It ends with the text, or with the
mark or blank after it, and the scanner treats that character as if the token had been
complete before (`Scanner.Settles`).  That is all the scanner needs to know of what
follows a value.  Blanks between tokens are read and leave nothing behind, so the
spacing of a text does not matter (`Scanner.foldlM_blanks`).

* `scans_write`: scanning the text of a value adds its tokens.
* `foldlM_step_spell`: the tokens of a value lead to the value.
* `parse?_text`: every value is read back from its text.
-/

namespace LinearProgram.Json

mutual

/-- The tokens of a value. -/
def spell : Json → List Token
  | null => [.null]
  | bool b => [.bool b]
  | number n => [.number n]
  | string s => [.string s]
  | array [] => [.openArray, .closeArray]
  | array (v :: vs) => .openArray :: (spell v ++ (spellItems vs ++ [.closeArray]))
  | object [] => [.openObject, .closeObject]
  | object ((k, v) :: fs) =>
    .openObject :: .string k :: .colon :: (spell v ++ (spellFields fs ++ [.closeObject]))

/-- The tokens of the items after the first one. -/
def spellItems : List Json → List Token
  | [] => []
  | v :: vs => .comma :: (spell v ++ spellItems vs)

/-- The tokens of the fields after the first one. -/
def spellFields : List (Option String × Json) → List Token
  | [] => []
  | (k, v) :: fs => .comma :: .string k :: .colon :: (spell v ++ spellFields fs)

end

/-! ## The scanner -/

/-- Whether a character may come after a complete value: a mark, or a blank. -/
def isFollower (c : Char) : Bool := c == ',' || c == ']' || c == '\x7d' || isSeparator c

/-- The scanner has read these tokens, and what may come after them is read as if nothing were
pending. -/
structure Scanner.Settles (s : Scanner) (tokens : List Token) : Prop where
  close : s.close? = some tokens
  step : ∀ c, isFollower c = true → s.step c = between tokens c

namespace Scanner

/-- What follows a value continues nothing: it is not part of a word or a number. -/
theorem follower_ends {c : Char} (follower : isFollower c = true) :
    c.isLower = false ∧ isNumberChar c = false := by
  simp only [isFollower, isSeparator, Bool.or_eq_true, beq_iff_eq, or_assoc] at follower
  rcases follower with rfl | rfl | rfl | rfl | rfl | rfl | rfl
  all_goals exact ⟨rfl, rfl⟩

theorem settles_nothing (tokens : List Token) : Settles ⟨tokens, .nothing⟩ tokens :=
  ⟨rfl, fun _ _ => rfl⟩

theorem Settles.foldlM_cons {s : Scanner} {tokens : List Token} (settled : s.Settles tokens)
    {c : Char} {s' : Scanner} (follower : isFollower c = true) (step : between tokens c = some s')
    (after : List Char) :
    (c :: after).foldlM Scanner.step s = after.foldlM Scanner.step s' :=
  foldlM_cons_of_step ((settled.step c follower).trans step) after

/-- Blanks are read and leave nothing behind. -/
theorem foldlM_blanks {blanks : List Char} (blank : ∀ c ∈ blanks, isSeparator c = true)
    (tokens : List Token) (after : List Char) :
    (blanks ++ after).foldlM Scanner.step ⟨tokens, .nothing⟩ =
      after.foldlM Scanner.step ⟨tokens, .nothing⟩ := by
  induction blanks with
  | nil => rfl
  | cons c rest ih =>
    have step : Scanner.step ⟨tokens, .nothing⟩ c = some ⟨tokens, .nothing⟩ :=
      if_pos (blank c List.mem_cons_self)
    rw [List.cons_append, foldlM_cons_of_step step]
    exact ih fun d mem => blank d (List.mem_cons_of_mem c mem)

/-- A mark after blanks is read as if it came at once. -/
theorem Settles.foldlM_blanks_cons {s s' : Scanner} {tokens : List Token}
    (settled : s.Settles tokens) {blanks : List Char}
    (blank : ∀ c ∈ blanks, isSeparator c = true) {c : Char} (follower : isFollower c = true)
    (step : between tokens c = some s') (after : List Char) :
    (blanks ++ c :: after).foldlM Scanner.step s = after.foldlM Scanner.step s' := by
  cases blanks with
  | nil => exact settled.foldlM_cons follower step after
  | cons d rest =>
    have separator : isSeparator d = true := blank d List.mem_cons_self
    have first : between tokens d = some ⟨tokens, .nothing⟩ := if_pos separator
    have ended : isFollower d = true := by simp [isFollower, separator]
    rw [List.cons_append, settled.foldlM_cons ended first,
      foldlM_blanks fun e mem => blank e (List.mem_cons_of_mem d mem)]
    exact (settles_nothing tokens).foldlM_cons follower step after

theorem settles_word {tokens : List Token} {letters : List Char} {t : Token}
    (read : wordOfChars? letters.reverse = some t) :
    Settles ⟨tokens, .word letters⟩ (t :: tokens) := by
  have close : close? ⟨tokens, .word letters⟩ = some (t :: tokens) := by
    simp [close?, read]
  refine ⟨close, fun c follower => ?_⟩
  simp [Scanner.step, follower_ends follower, close]

theorem settles_number {tokens : List Token} {chars : List Char} {n : Numeral}
    (read : numeralOfChars? chars.reverse = some n) :
    Settles ⟨tokens, .number chars⟩ (.number n :: tokens) := by
  have close : close? ⟨tokens, .number chars⟩ = some (.number n :: tokens) := by
    simp [close?, read]
  refine ⟨close, fun c follower => ?_⟩
  simp [Scanner.step, follower_ends follower, close]

theorem foldlM_step_number {tokens : List Token} {cs : List Char} (read : List Char)
    (allowed : ∀ c ∈ cs, isNumberChar c = true) :
    cs.foldlM Scanner.step ⟨tokens, .number read⟩ =
      some ⟨tokens, .number (cs.reverse ++ read)⟩ := by
  induction cs generalizing read with
  | nil => rfl
  | cons c cs ih =>
    have step : Scanner.step ⟨tokens, .number read⟩ c = some ⟨tokens, .number (c :: read)⟩ :=
      if_pos (allowed c List.mem_cons_self)
    rw [foldlM_cons_of_step step, ih _ fun d mem => allowed d (List.mem_cons_of_mem c mem),
      List.reverse_cons, List.append_assoc, List.singleton_append]

/-- Scanning a numeral leaves its characters pending. -/
theorem foldlM_step_chars (tokens : List Token) (n : Numeral) :
    (n.chars true).foldlM Scanner.step ⟨tokens, .nothing⟩ =
      some ⟨tokens, .number (n.chars true).reverse⟩ := by
  obtain ⟨c, cs, chars, first⟩ := exists_cons_chars n
  have blank : isSeparator c = false ∧ c ≠ '"' := by
    rcases first with rfl | digit
    · exact ⟨rfl, by decide⟩
    · have other (d : Char) : d.isDigit = false → c ≠ d := Digit.ne_of_isDigit digit
      exact ⟨by simp [isSeparator, other], other '"' rfl⟩
  have step : Scanner.step ⟨tokens, .nothing⟩ c = some ⟨tokens, .number [c]⟩ := by
    simp [Scanner.step, between, blank, first]
  have allowed : ∀ d ∈ cs, isNumberChar d = true := fun d mem =>
    isNumberChar_of_mem_chars (by rw [chars]; exact List.mem_cons_of_mem c mem)
  rw [chars, foldlM_cons_of_step step, foldlM_step_number _ allowed, List.reverse_cons]

end Scanner

/-- Scanning some text before any other adds tokens, and settles. -/
def Scans (write : List Char → List Char) (s : Scanner) (tokens : List Token) : Prop :=
  ∃ s' : Scanner, s'.Settles tokens ∧
    ∀ after, (write after).foldlM Scanner.step s = after.foldlM Scanner.step s'

/-- A spacing of blanks only. -/
structure Spacing.IsBlank (sp : Spacing) : Prop where
  line : ∀ depth, ∀ c ∈ sp.line depth, isSeparator c = true
  colon : ∀ c ∈ sp.colon, isSeparator c = true

namespace Spacing

theorem isBlank_compact : compact.IsBlank :=
  ⟨fun _ _ mem => absurd mem List.not_mem_nil, fun _ mem => absurd mem List.not_mem_nil⟩

theorem isBlank_indented : indented.IsBlank := by
  refine ⟨fun depth c mem => ?_, fun c mem => ?_⟩
  · rcases List.mem_cons.mp mem with rfl | space
    · rfl
    · rw [List.eq_of_mem_replicate space]
      rfl
  · rw [List.mem_singleton.mp mem]
    rfl

end Spacing

section Scanning

variable {sp : Spacing} (blank : sp.IsBlank)

include blank

mutual

/-- Scanning a value adds its tokens. -/
theorem scans_write (depth : Nat) (v : Json) (tokens : List Token) :
    Scans (write sp depth v) ⟨tokens, .nothing⟩ ((spell v).reverse ++ tokens) := by
  match v with
  | null => exact ⟨⟨tokens, .word ['l', 'l', 'u', 'n']⟩, Scanner.settles_word rfl, fun _ => rfl⟩
  | bool true =>
    exact ⟨⟨tokens, .word ['e', 'u', 'r', 't']⟩, Scanner.settles_word rfl, fun _ => rfl⟩
  | bool false =>
    exact ⟨⟨tokens, .word ['e', 's', 'l', 'a', 'f']⟩, Scanner.settles_word rfl, fun _ => rfl⟩
  | number n =>
    refine ⟨⟨tokens, .number (n.chars true).reverse⟩, Scanner.settles_number ?_, fun after => ?_⟩
    · rw [List.reverse_reverse]
      exact numeralOfChars?_chars n
    · rw [write, writeNumber, foldlM_append_of_foldlM (Scanner.foldlM_step_chars tokens n)]
  | string s =>
    refine ⟨_, Scanner.settles_nothing (.string s :: tokens), fun after => ?_⟩
    rw [write, foldlM_step_writeString]
  | array [] => exact ⟨_, Scanner.settles_nothing _, fun _ => rfl⟩
  | array (v :: vs) =>
    obtain ⟨s, first, scanned⟩ := scans_write (depth + 1) v (.openArray :: tokens)
    obtain ⟨s', rest, scanned'⟩ := scans_writeItems (depth + 1) vs first
    refine ⟨_, Scanner.settles_nothing _, fun after => ?_⟩
    have opened : Scanner.step ⟨tokens, .nothing⟩ '[' = some ⟨.openArray :: tokens, .nothing⟩ := rfl
    rw [write, foldlM_cons_of_step opened, Scanner.foldlM_blanks (blank.line _), scanned, scanned',
      rest.foldlM_blanks_cons (blank.line _) rfl rfl]
    simp [spell]
  | object [] => exact ⟨_, Scanner.settles_nothing _, fun _ => rfl⟩
  | object ((k, v) :: fs) =>
    obtain ⟨s, first, scanned⟩ :=
      scans_write (depth + 1) v (.colon :: .string k :: .openObject :: tokens)
    obtain ⟨s', rest, scanned'⟩ := scans_writeFields (depth + 1) fs first
    refine ⟨_, Scanner.settles_nothing _, fun after => ?_⟩
    have opened : Scanner.step ⟨tokens, .nothing⟩ '\x7b' =
      some ⟨.openObject :: tokens, .nothing⟩ := rfl
    have colon : Scanner.step ⟨.string k :: .openObject :: tokens, .nothing⟩ ':' =
      some ⟨.colon :: .string k :: .openObject :: tokens, .nothing⟩ := rfl
    rw [write, foldlM_cons_of_step opened, Scanner.foldlM_blanks (blank.line _),
      foldlM_step_writeString, foldlM_cons_of_step colon, Scanner.foldlM_blanks blank.colon,
      scanned, scanned', rest.foldlM_blanks_cons (blank.line _) rfl rfl]
    simp [spell]

theorem scans_writeItems (depth : Nat) (vs : List Json) {s : Scanner} {tokens : List Token}
    (settled : s.Settles tokens) :
    Scans (writeItems sp depth vs) s ((spellItems vs).reverse ++ tokens) := by
  match vs with
  | [] => exact ⟨s, settled, fun _ => rfl⟩
  | v :: vs =>
    obtain ⟨s', first, scanned⟩ := scans_write depth v (.comma :: tokens)
    obtain ⟨s'', rest, scanned'⟩ := scans_writeItems depth vs first
    refine ⟨s'', by simpa [spellItems] using rest, fun after => ?_⟩
    have comma : Scanner.between tokens ',' = some ⟨.comma :: tokens, .nothing⟩ := rfl
    rw [writeItems, settled.foldlM_cons rfl comma, Scanner.foldlM_blanks (blank.line _), scanned,
      scanned']

theorem scans_writeFields (depth : Nat) (fs : List (Option String × Json)) {s : Scanner}
    {tokens : List Token} (settled : s.Settles tokens) :
    Scans (writeFields sp depth fs) s ((spellFields fs).reverse ++ tokens) := by
  match fs with
  | [] => exact ⟨s, settled, fun _ => rfl⟩
  | (k, v) :: fs =>
    obtain ⟨s', first, scanned⟩ := scans_write depth v (.colon :: .string k :: .comma :: tokens)
    obtain ⟨s'', rest, scanned'⟩ := scans_writeFields depth fs first
    refine ⟨s'', by simpa [spellFields] using rest, fun after => ?_⟩
    have comma : Scanner.between tokens ',' = some ⟨.comma :: tokens, .nothing⟩ := rfl
    have colon : Scanner.step ⟨.string k :: .comma :: tokens, .nothing⟩ ':' =
      some ⟨.colon :: .string k :: .comma :: tokens, .nothing⟩ := rfl
    rw [writeFields, settled.foldlM_cons rfl comma, Scanner.foldlM_blanks (blank.line _),
      foldlM_step_writeString, foldlM_cons_of_step colon, Scanner.foldlM_blanks blank.colon,
      scanned, scanned']

end

theorem tokens?_write (v : Json) : tokens? (write sp 0 v []) = some (spell v) := by
  obtain ⟨s, settled, scanned⟩ := scans_write blank 0 v []
  have last : (write sp 0 v []).foldlM Scanner.step Scanner.start = some s := scanned []
  unfold tokens?
  rw [last, Option.bind_eq_bind, Option.bind_some, settled.close]
  simp

end Scanning

/-! ## The machine of places -/

/-- The first token of a value closes nothing, so an array that waits for its first item or its
end waits for a value. -/
theorem step_firstItem_spell (outer : List Frame) (v : Json) :
    (spell v).foldlM Place.step (.firstItem outer) =
      (spell v).foldlM Place.step (.value (.array [] :: outer)) := by
  match v with
  | null | bool _ | number _ | string _ | array [] | object [] => rfl
  | array (_ :: _) | object ((_, _) :: _) =>
    rw [spell]
    rfl

mutual

/-- The tokens of a value lead from where a value is expected to the value. -/
theorem foldlM_step_spell (outer : List Frame) (v : Json) :
    (spell v).foldlM Place.step (.value outer) = some (.after outer v) := by
  match v with
  | null | bool _ | number _ | string _ | array [] | object [] => rfl
  | array (v :: vs) =>
    have opened : Place.step (.value outer) .openArray = some (.firstItem outer) := rfl
    have first := (step_firstItem_spell outer v).trans (foldlM_step_spell (.array [] :: outer) v)
    rw [spell, foldlM_cons_of_step opened, foldlM_append_of_foldlM first, foldlM_step_spellItems]
    rfl
  | object ((k, v) :: fs) =>
    have opened : Place.step (.value outer) .openObject = some (.firstKey outer) := rfl
    have key : Place.step (.firstKey outer) (.string k) = some (.colon outer [] k) := rfl
    have colon : Place.step (.colon outer [] k) .colon = some (.value (.object [] k :: outer)) :=
      rfl
    rw [spell, foldlM_cons_of_step opened, foldlM_cons_of_step key, foldlM_cons_of_step colon,
      foldlM_append_of_foldlM (foldlM_step_spell _ v), foldlM_step_spellFields]
    rfl

theorem foldlM_step_spellItems (outer : List Frame) (before : List Json) (v : Json)
    (vs : List Json) :
    (spellItems vs ++ [Token.closeArray]).foldlM Place.step (.after (.array before :: outer) v) =
      some (.after outer (.array (before.reverse ++ v :: vs))) := by
  match vs with
  | [] =>
    have closed : (v :: before).reverse = before.reverse ++ [v] := List.reverse_cons
    rw [← closed]
    rfl
  | w :: vs =>
    have comma : Place.step (.after (.array before :: outer) v) .comma =
      some (.value (.array (v :: before) :: outer)) := rfl
    rw [spellItems, List.cons_append, foldlM_cons_of_step comma, List.append_assoc,
      foldlM_append_of_foldlM (foldlM_step_spell _ w), foldlM_step_spellItems, List.reverse_cons,
      List.append_assoc, List.singleton_append]

theorem foldlM_step_spellFields (outer : List Frame) (before : List (Option String × Json))
    (k : Option String) (v : Json) (fs : List (Option String × Json)) :
    (spellFields fs ++ [Token.closeObject]).foldlM Place.step
        (.after (.object before k :: outer) v) =
      some (.after outer (.object (before.reverse ++ (k, v) :: fs))) := by
  match fs with
  | [] =>
    have closed : ((k, v) :: before).reverse = before.reverse ++ [(k, v)] := List.reverse_cons
    rw [← closed]
    rfl
  | (l, w) :: fs =>
    have comma : Place.step (.after (.object before k :: outer) v) .comma =
      some (.key outer ((k, v) :: before)) := rfl
    have key : Place.step (.key outer ((k, v) :: before)) (.string l) =
      some (.colon outer ((k, v) :: before) l) := rfl
    have colon : Place.step (.colon outer ((k, v) :: before) l) .colon =
      some (.value (.object ((k, v) :: before) l :: outer)) := rfl
    rw [spellFields, List.cons_append, foldlM_cons_of_step comma, List.cons_append,
      foldlM_cons_of_step key, List.cons_append, foldlM_cons_of_step colon, List.append_assoc,
      foldlM_append_of_foldlM (foldlM_step_spell _ w), foldlM_step_spellFields, List.reverse_cons,
      List.append_assoc, List.singleton_append]

end

theorem ofTokens?_spell (v : Json) : ofTokens? (spell v) = some v := by
  unfold ofTokens?
  rw [foldlM_step_spell]
  rfl

/-- Every value is read back from its text, whatever blanks stand between the tokens. -/
theorem parse?_text {sp : Spacing} (blank : sp.IsBlank) (v : Json) : parse? (v.text sp) = some v := by
  unfold parse? ofChars? text
  rw [String.toList_ofList, tokens?_write blank, Option.bind_eq_bind, Option.bind_some,
    ofTokens?_spell]

theorem parse?_compactText (v : Json) : parse? v.compactText = some v :=
  parse?_text Spacing.isBlank_compact v

theorem parse?_indentedText (v : Json) : parse? v.indentedText = some v :=
  parse?_text Spacing.isBlank_indented v

end LinearProgram.Json
