import Reconciler.Json.Printer
import Reconciler.Proofs.Json.Number

/-!
# Cutting a written value back into its tokens

The spread form of a value spells the tokens of the value. A number or word ends only where a
character follows that cannot belong to it, so what a piece of a text spells is said of the cut
after it with its last word ended (`Cut.Spells`); pieces are put together where the second one
breaks off the word before it (`Spells.append`).
-/

set_option autoImplicit false

namespace Reconciler.Json

/-- A value as the program writes it: whole numbers fit 64 bits, nothing is unreadable, and arrays
and objects are nested no deeper than there is room. -/
inductive Plain : Nat → Json → Prop where
  | null (room : Nat) : Plain room .null
  | bool (room : Nat) (value : Bool) : Plain room (.bool value)
  | int {room : Nat} {value : Int} (hlow : Int64.minValue.toInt ≤ value)
      (hhigh : value < UInt64.size) : Plain room (.int value)
  | str (room : Nat) (value : String) : Plain room (.str value)
  | arr {room : Nat} {items : List Json} (hitems : ∀ item ∈ items, Plain room item) :
      Plain (room + 1) (.arr items)
  | obj {room : Nat} {members : List (String × Json)}
      (hmembers : ∀ member ∈ members, Plain room member.2) : Plain (room + 1) (.obj members)

namespace Cut

/-- A character that cannot belong to a word ends the word before it. -/
theorem advance_of_not_isWordChar {c : Char} (hc : isWordChar c = false) (cut : Cut)
    (rest : List Char) :
    cut.advance (c :: rest) = cut.settle.bind fun settled => settled.advance (c :: rest) := by
  obtain ⟨seen, place⟩ := cut
  cases place with
  | word chars =>
    simp only [advance, next, hc, settle, Bool.false_eq_true, if_false]
    cases ofWord? chars.reverse <;> rfl
  | blank => rfl
  | text parts => rfl
  | escape parts => rfl
  | hex left unit parts => rfl

end Cut

/-- A piece of a text that stands for these tokens and ends between two of them. -/
def Closes (chars : List Char) (tokens : List Token) : Prop :=
  ∀ seen, (⟨seen, .blank⟩ : Cut).advance chars = some ⟨tokens.reverse ++ seen, .blank⟩

/-- A piece of a text that stands for these tokens once its last word is ended. -/
def Spells (chars : List Char) (tokens : List Token) : Prop :=
  ∀ seen, ((⟨seen, .blank⟩ : Cut).advance chars).bind Cut.settle =
    some ⟨tokens.reverse ++ seen, .blank⟩

/-- A piece of a text that does not go on with the word before it. -/
def Breaks (chars : List Char) : Prop :=
  ∀ c ∈ chars.head?, isWordChar c = false

variable {front back : List Char} {first second : List Token}

/-- A piece that ends between two tokens has no word left to end. -/
theorem Closes.spells (h : Closes front first) : Spells front first := fun seen => by
  rw [h seen]
  rfl

/-- Pieces that end between two tokens are put together, with their tokens. -/
theorem Closes.append (hfront : Closes front first) (hback : Closes back second) :
    Closes (front ++ back) (first ++ second) := fun seen => by
  rw [Cut.advance_append, hfront seen, Option.bind_some, hback, List.reverse_append,
    List.append_assoc]

/-- A piece that ends between two tokens can be followed by any other. -/
theorem Closes.append_spells (hfront : Closes front first) (hback : Spells back second) :
    Spells (front ++ back) (first ++ second) := fun seen => by
  rw [Cut.advance_append, hfront seen, Option.bind_some, hback, List.reverse_append,
    List.append_assoc]

/-- A piece can be followed by one that breaks off its last word. -/
theorem Spells.append (hfront : Spells front first) (hback : Spells back second)
    (hbreaks : Breaks back) : Spells (front ++ back) (first ++ second) := by
  cases back with
  | nil =>
    have hnone : second = [] := by simpa [Cut.advance, Cut.settle] using hback []
    rw [hnone, List.append_nil, List.append_nil]
    exact hfront
  | cons c rest =>
    intro seen
    have hc := hbreaks c rfl
    have hsettled := hfront seen
    rw [Cut.advance_append, Option.bind_assoc]
    cases hcut : (⟨seen, .blank⟩ : Cut).advance front with
    | none => simp [hcut] at hsettled
    | some cut =>
      rw [hcut, Option.bind_some] at hsettled
      rw [Option.bind_some, Cut.advance_of_not_isWordChar hc, hsettled, Option.bind_some, hback,
        List.reverse_append, List.append_assoc]

/-- A text that spells tokens is cut into them. -/
theorem Spells.tokenize? (h : Spells front first) : tokenize? front = some first := by
  have hsettled := h []
  simp only [Json.tokenize?, Cut.start]
  cases hcut : (⟨[], .blank⟩ : Cut).advance front with
  | none => simp [hcut] at hsettled
  | some cut =>
    rw [hcut, Option.bind_some] at hsettled
    simp [Cut.finish, hsettled]

/-! ## White space and marks -/

/-- A line break stands for no token. -/
theorem closes_lineBreak (level : Nat) : Closes (lineBreak level) [] := by
  have hspaces : ∀ count, Closes (List.replicate count ' ') [] := by
    intro count
    induction count with
    | zero => exact fun seen => rfl
    | succ count ih => exact fun seen => ih seen
  exact fun seen => hspaces _ seen

/-- A line break ends the word before it. -/
theorem breaks_lineBreak_append (level : Nat) (chars : List Char) :
    Breaks (lineBreak level ++ chars) := by
  rintro c ⟨⟩
  rfl

/-! ## Strings -/

/-- A digit below sixteen is read back from its character. -/
theorem hexDigit?_digitChar {digit : Nat} (h : digit < 16) :
    hexDigit? (Nat.digitChar digit) = some digit := by
  have hall : ∀ digit < 16, hexDigit? (Nat.digitChar digit) = some digit := by decide
  exact hall digit h

/-- A character of a string is read back from its escaped form. -/
theorem advance_escapeChar (seen : List Token) (parts : List TextPart) (c : Char) :
    (⟨seen, .text parts⟩ : Cut).advance (escapeChar c) =
      some ⟨seen, .text (.char c :: parts)⟩ := by
  unfold escapeChar
  split
  · next h => subst h; rfl
  split
  · next h => subst h; rfl
  split
  · next h => subst h; rfl
  split
  · next h => subst h; rfl
  split
  · next h => subst h; rfl
  split
  · next h => subst h; rfl
  split
  · next h => subst h; rfl
  split
  · next hcontrol =>
    have hhigh := hexDigit?_digitChar (show c.toNat / 16 < 16 by omega)
    have hlow := hexDigit?_digitChar (show c.toNat % 16 < 16 by omega)
    have hunit : c.toNat / 16 * 16 + c.toNat % 16 = c.toNat := by omega
    have hwhole : ¬(0xd800 ≤ c.toNat ∧ c.toNat < 0xe000) := by omega
    have hzeros (rest : List Char) :
        (⟨seen, .text parts⟩ : Cut).advance ('\\' :: 'u' :: '0' :: '0' :: rest) =
          (⟨seen, .hex 2 0 parts⟩ : Cut).advance rest := rfl
    rw [hzeros]
    simp [Cut.advance, Cut.next, hhigh, hlow, TextPart.ofUnit, hunit, hwhole]
  · next hquote hslash _ _ _ _ _ hcontrol =>
    simp [Cut.advance, Cut.next, hquote, hslash, hcontrol]

/-- The characters of a string are read back from their escapes. -/
theorem advance_flatMap_escapeChar (seen : List Token) (parts : List TextPart)
    (chars : List Char) :
    (⟨seen, .text parts⟩ : Cut).advance (chars.flatMap escapeChar) =
      some ⟨seen, .text ((chars.map TextPart.char).reverse ++ parts)⟩ := by
  induction chars generalizing parts with
  | nil => rfl
  | cons c rest ih =>
    rw [List.flatMap_cons, Cut.advance_append, advance_escapeChar, Option.bind_some, ih]
    simp

/-- A string without surrogate halves joins to its characters. -/
theorem TextPart.join_map_char (chars : List Char) : join (chars.map .char) = some chars := by
  induction chars with
  | nil => rfl
  | cons c rest ih => simp [join, ih]

/-- A written string stands for the text that it was written for. -/
theorem closes_textChars (value : String) : Closes (textChars value) [.text (some value)] := by
  intro seen
  have hopen : (⟨seen, .blank⟩ : Cut).next '"' = some ⟨seen, .text []⟩ := rfl
  rw [textChars, List.cons_append, Cut.advance, hopen, Option.bind_some, Cut.advance_append,
    advance_flatMap_escapeChar, Option.bind_some, List.append_nil]
  simp [Cut.advance, Cut.next, TextPart.join_map_char]

/-! ## Numbers and words -/

/-- A character of a word begins a word between two tokens. -/
theorem next_blank_of_isWordChar {c : Char} (h : isWordChar c = true) (seen : List Token) :
    (⟨seen, .blank⟩ : Cut).next c = some ⟨seen, .word [c]⟩ := by
  have hspace : isSpace c = false := by
    cases hspace : isSpace c with
    | false => rfl
    | true =>
      simp only [isSpace, Bool.or_eq_true, beq_iff_eq] at hspace
      rcases hspace with ((rfl | rfl) | rfl) | rfl <;> cases h
  have hquote : c ≠ '"' := by
    rintro rfl
    cases h
  simp [Cut.next, Cut.between, hspace, hquote, h]

/-- A word grows by the characters that belong to it. -/
theorem advance_word {chars : List Char} (h : ∀ c ∈ chars, isWordChar c = true)
    (seen : List Token) (before : List Char) :
    (⟨seen, .word before⟩ : Cut).advance chars = some ⟨seen, .word (chars.reverse ++ before)⟩ := by
  induction chars generalizing before with
  | nil => rfl
  | cons c rest ih =>
    have hc := h c List.mem_cons_self
    simp only [Cut.advance, Cut.next, hc, if_true, Option.bind_some]
    rw [ih (fun other hother => h other (List.mem_cons_of_mem _ hother))]
    simp

/-- Characters of a word stand for the value of the word. -/
theorem spells_word {chars : List Char} {value : Json} (hne : chars ≠ [])
    (h : ∀ c ∈ chars, isWordChar c = true) (hvalue : ofWord? chars = some value) :
    Spells chars [.scalar value] := by
  intro seen
  cases chars with
  | nil => exact absurd rfl hne
  | cons c rest =>
    rw [Cut.advance, next_blank_of_isWordChar (h c List.mem_cons_self), Option.bind_some,
      advance_word fun other hother => h other (List.mem_cons_of_mem _ hother)]
    simp [Cut.settle, hvalue]

/-- A digit belongs to a word. -/
theorem isWordChar_of_isDigit {c : Char} (h : c.isDigit = true) : isWordChar c = true := by
  simp [isWordChar, Char.isAlphanum, h]

/-- A whole number is written with digits and a minus sign. -/
theorem mem_intChars {value : Int} {c : Char} (h : c ∈ intChars value) :
    c.isDigit = true ∨ c = '-' := by
  cases value with
  | ofNat n => exact .inl (isDigit_of_mem_toDigits h)
  | negSucc n =>
    rcases List.mem_cons.mp h with hsign | hdigits
    · exact .inr hsign
    · exact .inl (isDigit_of_mem_toDigits hdigits)

/-- A whole number is written with one character at least. -/
theorem intChars_ne_nil (value : Int) : intChars value ≠ [] := by
  cases value with
  | ofNat n => exact Nat.toDigits_ne_nil
  | negSucc n => exact List.cons_ne_nil _ _

/-- A written number is none of the words. -/
theorem ofWord?_intChars (value : Int) : ofWord? (intChars value) = ofNumber? (intChars value) := by
  have hne : ∀ {c : Char} {rest : List Char}, c.isDigit = false → c ≠ '-' →
      intChars value ≠ c :: rest := by
    intro c rest hdigit hsign hchars
    rcases mem_intChars (hchars ▸ List.mem_cons_self : c ∈ intChars value) with h | h
    · rw [h] at hdigit
      cases hdigit
    · exact hsign h
  rw [ofWord?, if_neg (hne rfl (by decide)), if_neg (hne rfl (by decide)),
    if_neg (hne rfl (by decide))]

/-- A whole number of 64 bits stands for itself. -/
theorem spells_intChars {value : Int} (hlow : Int64.minValue.toInt ≤ value)
    (hhigh : value < UInt64.size) : Spells (intChars value) [.scalar (.int value)] := by
  refine spells_word (intChars_ne_nil value) (fun c hc => ?_) ?_
  · rcases mem_intChars hc with hdigit | rfl
    · exact isWordChar_of_isDigit hdigit
    · rfl
  · rw [ofWord?_intChars, ofNumber?_intChars hlow hhigh]

/-! ## Values -/

/-- The items after the first one are spelled one by one, each after a comma. -/
theorem spells_spreadItems {level : Nat} {items : List Json} {tail : List Char}
    {more : List Token} (hitems : ∀ item ∈ items, Spells (spread level item) (tokens item))
    (htail : Spells tail more) (hbreaks : Breaks tail) :
    Spells (spreadItems level items ++ tail) (moreItemTokens items ++ more) ∧
      Breaks (spreadItems level items ++ tail) := by
  induction items with
  | nil => exact ⟨htail, hbreaks⟩
  | cons item rest ih =>
    obtain ⟨hrest, hbreak⟩ := ih fun other hother => hitems other (List.mem_cons_of_mem _ hother)
    have hcomma : Closes (',' :: lineBreak level) [.comma] := fun seen =>
      closes_lineBreak level _
    refine ⟨?_, ?_⟩
    · have hspells := hcomma.append_spells
        ((hitems item List.mem_cons_self).append hrest hbreak)
      simpa [spreadItems, moreItemTokens] using hspells
    · rintro c ⟨⟩
      rfl

/-- The members after the first one are spelled one by one, each after a comma. -/
theorem spells_spreadMembers {level : Nat} {members : List (String × Json)} {tail : List Char}
    {more : List Token}
    (hmembers : ∀ member ∈ members, Spells (spread level member.2) (tokens member.2))
    (htail : Spells tail more) (hbreaks : Breaks tail) :
    Spells (spreadMembers level members ++ tail) (moreMemberTokens members ++ more) ∧
      Breaks (spreadMembers level members ++ tail) := by
  induction members with
  | nil => exact ⟨htail, hbreaks⟩
  | cons member rest ih =>
    obtain ⟨name, value⟩ := member
    obtain ⟨hrest, hbreak⟩ := ih fun other hother => hmembers other (List.mem_cons_of_mem _ hother)
    have hcomma : Closes (',' :: lineBreak level) [.comma] := fun seen =>
      closes_lineBreak level _
    have hcolon : Closes [':', ' '] [.colon] := fun seen => rfl
    refine ⟨?_, ?_⟩
    · have hspells := (hcomma.append ((closes_textChars name).append hcolon)).append_spells
        ((hmembers _ List.mem_cons_self).append hrest hbreak)
      simpa [spreadMembers, moreMemberTokens] using hspells
    · rintro c ⟨⟩
      rfl

/-- The spread form of a value spells its tokens. -/
theorem Plain.spells_spread {room : Nat} {json : Json} (h : Plain room json) (level : Nat) :
    Spells (spread level json) (tokens json) := by
  induction h generalizing level with
  | null room => exact spells_word (List.cons_ne_nil _ _) (List.all_eq_true.mp rfl) rfl
  | bool room value =>
    cases value <;> exact spells_word (List.cons_ne_nil _ _) (List.all_eq_true.mp rfl) rfl
  | int hlow hhigh => exact spells_intChars hlow hhigh
  | str room value => exact (closes_textChars value).spells
  | @arr room items hitems ih =>
    cases items with
    | nil => exact fun seen => rfl
    | cons item rest =>
      have hopen : Closes ('[' :: lineBreak (level + 1)) [.openArray] := fun seen =>
        closes_lineBreak (level + 1) _
      have hclose : Closes (lineBreak level ++ [']']) [.closeArray] :=
        (closes_lineBreak level).append fun seen => rfl
      obtain ⟨hrest, hbreak⟩ := spells_spreadItems
        (fun other hother => ih other (List.mem_cons_of_mem _ hother) (level + 1))
        hclose.spells (breaks_lineBreak_append level [']'])
      have hspells := hopen.append_spells
        ((ih item List.mem_cons_self (level + 1)).append hrest hbreak)
      simpa [spread, tokens, itemTokens] using hspells
  | @obj room members hmembers ih =>
    cases members with
    | nil => exact fun seen => rfl
    | cons member rest =>
      obtain ⟨name, value⟩ := member
      have hopen : Closes ('{' :: lineBreak (level + 1)) [.openObject] := fun seen =>
        closes_lineBreak (level + 1) _
      have hcolon : Closes [':', ' '] [.colon] := fun seen => rfl
      have hclose : Closes (lineBreak level ++ ['}']) [.closeObject] :=
        (closes_lineBreak level).append fun seen => rfl
      obtain ⟨hrest, hbreak⟩ := spells_spreadMembers
        (fun other hother => ih other (List.mem_cons_of_mem _ hother) (level + 1))
        hclose.spells (breaks_lineBreak_append level ['}'])
      have hspells := (hopen.append ((closes_textChars name).append hcolon)).append_spells
        ((ih _ List.mem_cons_self (level + 1)).append hrest hbreak)
      simpa [spread, tokens, memberTokens] using hspells

/-- A value is cut back into its tokens. -/
theorem Plain.tokenize?_pretty {room : Nat} {json : Json} (h : Plain room json) :
    Json.tokenize? json.pretty.toList = some (tokens json) := by
  rw [pretty, String.toList_ofList]
  exact (h.spells_spread 0).tokenize?

end Reconciler.Json
