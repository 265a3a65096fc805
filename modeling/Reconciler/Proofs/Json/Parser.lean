import Reconciler.Json.Parser
import Reconciler.Proofs.Json.Token

/-!
# Reading a written value back

The tokens of a value lead the reading of a text to the value, whatever comes after them, as long
as there is room for its arrays and objects: `Plain.readsBack` for a value in its place,
and from it `Plain.parse?_pretty` for a whole text.
-/

set_option autoImplicit false

namespace Reconciler.Json

/-- A value begins with a token that ends nothing. -/
theorem exists_tokens_eq_cons (json : Json) :
    ∃ first rest, tokens json = first :: rest ∧ first ≠ .closeArray := by
  cases json <;> exact ⟨_, _, rfl, Token.noConfusion⟩

namespace Reading

variable {frames : List Frame}

/-- There is room for one array or object more below the deepest level. -/
theorem hasRoom_of_lt (h : frames.length < deepest) : hasRoom frames = true := by
  rw [hasRoom, List.length_take, decide_eq_true_eq]
  omega

/-- An array or object that is not too deep is closed by putting it in its place. -/
theorem close_of_lt (value : Json) (h : frames.length < deepest) :
    close value frames = complete value frames := by
  rw [close, hasRoom_of_lt h, if_pos rfl]

/-- The first item of an array is read like any other value. -/
theorem advance_itemOrClose (json : Json) (rest : List Token) :
    advance ⟨frames, .itemOrClose⟩ (tokens json ++ rest) =
      advance ⟨frames, .value⟩ (tokens json ++ rest) := by
  obtain ⟨first, others, htokens, hfirst⟩ := exists_tokens_eq_cons json
  have hnext : next ⟨frames, .itemOrClose⟩ first = next ⟨frames, .value⟩ first := by
    cases frames with
    | nil => rfl
    | cons frame frames => cases frame <;> cases first <;> first | rfl | exact absurd rfl hfirst
  rw [htokens, List.cons_append, advance, advance, hnext]

/-- The tokens of a value complete it where it stands. -/
def ReadsBack (room : Nat) (json : Json) : Prop :=
  ∀ frames rest, frames.length + room ≤ deepest →
    advance ⟨frames, .value⟩ (tokens json ++ rest) =
      (complete json frames).bind fun reading => reading.advance rest

variable {room : Nat}

/-- A value that is read back is read as an item of an array. -/
theorem ReadsBack.item {json : Json} (h : ReadsBack room json)
    (hroom : frames.length + room < deepest) (before : List Json) (rest : List Token) :
    advance ⟨.array before :: frames, .value⟩ (tokens json ++ rest) =
      advance ⟨.array (json :: before) :: frames, .commaOrClose⟩ rest :=
  h _ _ (by simp only [List.length_cons]; omega)

/-- A value that is read back is read as the value of a member. -/
theorem ReadsBack.member {json : Json} (h : ReadsBack room json)
    (hroom : frames.length + room < deepest) (before : List (Option String × Json))
    (name : Option String) (rest : List Token) :
    advance ⟨.member before name :: frames, .value⟩ (tokens json ++ rest) =
      advance ⟨.object ((name, json) :: before) :: frames, .commaOrClose⟩ rest :=
  h _ _ (by simp only [List.length_cons]; omega)

/-- The items after the first one are read back, and the array is closed after them. -/
theorem advance_moreItemTokens {items : List Json} (before : List Json) (rest : List Token)
    (hitems : ∀ item ∈ items, ReadsBack room item) (hroom : frames.length + room < deepest) :
    advance ⟨.array before :: frames, .commaOrClose⟩ (moreItemTokens items ++ .closeArray :: rest) =
      (complete (.arr (before.reverse ++ items)) frames).bind fun reading =>
        reading.advance rest := by
  induction items generalizing before with
  | nil =>
    simp only [moreItemTokens, List.nil_append, List.append_nil, advance, next]
    rw [close_of_lt _ (by omega)]
  | cons item others ih =>
    have hothers := ih (item :: before) fun other hother =>
      hitems other (List.mem_cons_of_mem _ hother)
    simp only [moreItemTokens, List.cons_append, List.append_assoc, advance, next,
      Option.bind_some, (hitems item List.mem_cons_self).item hroom, hothers, List.reverse_cons,
      List.nil_append]

/-- Members whose names are readable make an object, in the order in which they were read. -/
theorem objectOf_map (members : List (String × Json)) :
    objectOf (members.map fun member => (some member.1, member.2)).reverse = .obj members := by
  have hnamed : ∀ members : List (String × Json),
      (members.map fun member => (some member.1, member.2)).mapM
        (fun member => member.1.map (·, member.2)) = some members := by
    intro members
    induction members with
    | nil => rfl
    | cons member rest ih => simp [ih]
  simp [objectOf, hnamed]

/-- The members after the first one are read back, and the object is closed after them. -/
theorem advance_moreMemberTokens {members : List (String × Json)}
    (before : List (String × Json)) (rest : List Token)
    (hmembers : ∀ member ∈ members, ReadsBack room member.2)
    (hroom : frames.length + room < deepest) :
    advance ⟨.object (before.map fun member => (some member.1, member.2)).reverse :: frames,
        .commaOrClose⟩ (moreMemberTokens members ++ .closeObject :: rest) =
      (complete (.obj (before ++ members)) frames).bind fun reading => reading.advance rest := by
  induction members generalizing before with
  | nil =>
    simp only [moreMemberTokens, List.nil_append, List.append_nil, advance, next]
    rw [objectOf_map, close_of_lt _ (by omega)]
  | cons member others ih =>
    obtain ⟨name, value⟩ := member
    have hothers := ih (before ++ [(name, value)]) fun other hother =>
      hmembers other (List.mem_cons_of_mem _ hother)
    rw [List.map_append, List.reverse_append] at hothers
    simp only [moreMemberTokens, List.cons_append, List.append_assoc, advance, next,
      Option.bind_some, (hmembers _ List.mem_cons_self).member hroom]
    rw [← List.append_cons] at hothers
    exact hothers

end Reading

open Reading

/-- A plain value is read back where there is room for it. -/
theorem Plain.readsBack {room : Nat} {json : Json} (h : Plain room json) :
    ReadsBack room json := by
  -- By induction on the value: one level of room is for the array or object that is open.
  induction h with
  | null room => exact fun frames rest hroom => rfl
  | bool room value => exact fun frames rest hroom => rfl
  | int hlow hhigh => exact fun frames rest hroom => rfl
  | str room value => exact fun frames rest hroom => rfl
  | @arr room items hitems ih =>
    intro frames rest hroom
    cases items with
    | nil =>
      simp only [tokens, itemTokens, List.cons_append, List.nil_append, Reading.advance, next,
        openValue, Option.bind_some, List.reverse_nil]
      rw [close_of_lt _ (by omega)]
    | cons item others =>
      have hbelow : frames.length + room < deepest := by omega
      have hothers := advance_moreItemTokens [item] rest
        (fun other hother => ih other (List.mem_cons_of_mem _ hother)) hbelow
      simp only [tokens, itemTokens, List.cons_append, List.append_assoc, List.nil_append,
        Reading.advance, next, openValue, Option.bind_some, advance_itemOrClose,
        (ih item List.mem_cons_self).item hbelow]
      exact hothers
  | @obj room members hmembers ih =>
    intro frames rest hroom
    cases members with
    | nil =>
      simp only [tokens, memberTokens, List.cons_append, List.nil_append, Reading.advance, next,
        openValue, Option.bind_some]
      rw [close_of_lt _ (by omega)]
      rfl
    | cons member others =>
      obtain ⟨name, value⟩ := member
      have hbelow : frames.length + room < deepest := by omega
      have hothers := advance_moreMemberTokens [(name, value)] rest
        (fun other hother => ih other (List.mem_cons_of_mem _ hother)) hbelow
      simp only [tokens, memberTokens, List.cons_append, List.append_assoc, List.nil_append,
        Reading.advance, next, openValue, Option.bind_some,
        (ih _ List.mem_cons_self).member hbelow]
      exact hothers

/-- A text in which a plain value was written is read back as the value. -/
theorem Plain.parse?_pretty {json : Json} (h : Plain deepest json) :
    parse? json.pretty = some json := by
  have htokens := h.readsBack [] [] (Nat.le_of_eq (Nat.zero_add _))
  rw [List.append_nil] at htokens
  rw [parse?, h.tokenize?_pretty, Option.bind_some, ofTokens?, Reading.start, htokens]
  rfl

end Reconciler.Json
