import Mathlib.Data.List.Forall2
import Scad.Json.Printer
import Scad.Json.Token

/-!
# The tokens of written JSON

Both written forms of a value are cut into the same tokens, whatever text comes after
them (`compact_reads`, `prettyAt_reads`): one token for a string, which stands for that
very string however it was escaped, and else the marks of arrays and objects around
what they hold. The blanks of the pretty form leave no token.
-/

namespace Scad.Json

/-! ## The tokens of a value -/

/-- Lists of tokens with commas between them. -/
def separated : List (List Token) → List Token
  | [] => []
  | first :: later => first ++ later.flatMap (.comma :: ·)

mutual

def tokensOf : Json → List Token
  | .string s => [.string (some s)]
  | .array items => .openBracket :: (separated (tokensOfItems items) ++ [.closeBracket])
  | .object members => .openBrace :: (separated (tokensOfMembers members) ++ [.closeBrace])

def tokensOfItems : List Json → List (List Token)
  | [] => []
  | item :: items => tokensOf item :: tokensOfItems items

def tokensOfMembers : List (String × Json) → List (List Token)
  | [] => []
  | (key, value) :: members =>
      (.string (some key) :: .colon :: tokensOf value) :: tokensOfMembers members

end

theorem length_tokensOfItems (items : List Json) :
    (tokensOfItems items).length = items.length := by
  induction items with
  | nil => rfl
  | cons item items ih => rw [tokensOfItems, List.length_cons, List.length_cons, ih]

theorem length_tokensOfMembers (members : List (String × Json)) :
    (tokensOfMembers members).length = members.length := by
  induction members with
  | nil => rfl
  | cons e members ih => rw [tokensOfMembers, List.length_cons, List.length_cons, ih]

/-- There is a comma for each part but the first. -/
theorem length_le_separated (tss : List (List Token)) :
    tss.length ≤ (separated tss).length + 1 := by
  cases tss with
  | nil => exact Nat.zero_le _
  | cons first later =>
      have commas : later.length ≤ (later.flatMap (.comma :: ·)).length := by
        induction later with
        | nil => exact Nat.le_refl 0
        | cons ts later ih =>
            rw [List.flatMap_cons, List.length_append, List.length_cons, List.length_cons]
            omega
      rw [separated, List.length_append, List.length_cons]
      omega

/-! ## Text that is cut into tokens -/

/-- A text, between tokens, is cut into these tokens, whatever comes after it. -/
def Reads (s : List Char) (ts : List Token) : Prop :=
  ∀ rest, tokensFrom .between (s ++ rest) = ts ++ tokensFrom .between rest

namespace Reads

variable {s s' : List Char} {ts ts' : List Token}

theorem nil : Reads [] [] := fun _ => rfl

theorem append (h : Reads s ts) (h' : Reads s' ts') : Reads (s ++ s') (ts ++ ts') := by
  intro rest
  rw [List.append_assoc, h, h', List.append_assoc]

theorem blanks (h : ∀ c ∈ s, isSpace c = true) : Reads s [] := by
  induction s with
  | nil => exact nil
  | cons c s ih =>
      intro rest
      have blank : start c = ([], .between) := by
        have space := h c List.mem_cons_self
        unfold isSpace at space
        simp only [Bool.or_eq_true, beq_iff_eq] at space
        rcases space with ((rfl | rfl) | rfl) | rfl <;> rfl
      rw [List.cons_append, tokensFrom, step, blank]
      exact ih (fun c hc => h c (List.mem_cons_of_mem _ hc)) rest

/-- Parts with a separator between them that is cut into a comma. -/
theorem intercalate {separator : String} (comma : Reads separator.toList [.comma])
    {parts : List String} {tss : List (List Token)}
    (h : List.Forall₂ (fun part ts => Reads part.toList ts) parts tss) :
    Reads (separator.intercalate parts).toList (separated tss) := by
  induction h with
  | nil => exact nil
  | @cons part ts parts tss first later ih =>
      cases later with
      | nil => simpa [separated] using first
      | cons second later =>
          rw [String.intercalate_cons_cons, String.toList_append, String.toList_append]
          have whole := (first.append comma).append ih
          simpa [separated] using whole

end Reads

/-! ## Strings -/

theorem hexValue?_digitChar : ∀ n < 16, hexValue? (Nat.digitChar n) = some n := by decide

theorem unitDigits_of_lt : ∀ n < 0x20,
    unitDigits n = ['0', '0', Nat.digitChar (n / 16), Nat.digitChar (n % 16)] := by decide

theorem Content.pushUnit_of_lt {reversed : List Char} {n : Nat} (h : n < 0x20) :
    pushUnit ⟨some reversed, none⟩ n = ⟨some (Char.ofNat n :: reversed), none⟩ := by
  have notHigh : ¬0xD800 ≤ n := by omega
  have notLow : ¬0xDC00 ≤ n := by omega
  simp [pushUnit, notHigh, notLow]

/-- The digits of a control character stand for that character. -/
theorem tokensFrom_unitDigits (reversed : List Char) {n : Nat} (h : n < 0x20) (rest : List Char) :
    tokensFrom (.unit ⟨some reversed, none⟩ 4 0) (unitDigits n ++ rest) =
      tokensFrom (.string ⟨some (Char.ofNat n :: reversed), none⟩) rest := by
  have first := hexValue?_digitChar (n / 16) (by omega)
  have second := hexValue?_digitChar (n % 16) (by omega)
  have value : n / 16 * 16 + n % 16 = n := by omega
  have zero : hexValue? '0' = some 0 := rfl
  rw [unitDigits_of_lt n h]
  simp [tokensFrom, step, zero, first, second, value, Content.pushUnit_of_lt h]

/-- Within a string, what a character is written as stands for that character. -/
theorem tokensFrom_escapedChar (reversed : List Char) (c : Char) (rest : List Char) :
    tokensFrom (.string ⟨some reversed, none⟩) (escapedChar c ++ rest) =
      tokensFrom (.string ⟨some (c :: reversed), none⟩) rest := by
  unfold escapedChar
  split
  · rfl
  · rfl
  · rfl
  · rfl
  · rfl
  · rfl
  · rfl
  · -- The character is written as itself, but for control characters without a name.
    next quote backslash _ _ _ _ _ =>
      by_cases control : c.toNat < 0x20
      · have digits := tokensFrom_unitDigits reversed control rest
        rw [Char.ofNat_toNat] at digits
        rw [if_pos control, List.append_assoc]
        exact digits
      · rw [if_neg control, List.singleton_append, tokensFrom, step, if_neg quote,
          if_neg backslash, if_neg control]
        rfl

theorem tokensFrom_escaped (reversed s rest : List Char) :
    tokensFrom (.string ⟨some reversed, none⟩) (s.flatMap escapedChar ++ '"' :: rest) =
      .string (some (String.ofList (reversed.reverse ++ s))) :: tokensFrom .between rest := by
  induction s generalizing reversed with
  | nil => simp [tokensFrom, step, Content.finish]
  | cons c s ih =>
      rw [List.flatMap_cons, List.append_assoc, tokensFrom_escapedChar, ih]
      simp

theorem writeString_reads (s : String) : Reads (writeString s).toList [.string (some s)] := by
  intro rest
  have opened := tokensFrom_escaped [] s.toList rest
  simpa [writeString, tokensFrom, step, start, Content.empty] using opened

/-! ## Whole values -/

theorem openBrace_reads : Reads "\x7b".toList [.openBrace] := fun _ => rfl

theorem closeBrace_reads : Reads "\x7d".toList [.closeBrace] := fun _ => rfl

theorem openBracket_reads : Reads "[".toList [.openBracket] := fun _ => rfl

theorem closeBracket_reads : Reads "]".toList [.closeBracket] := fun _ => rfl

theorem colon_reads : Reads ":".toList [.colon] := fun _ => rfl

theorem comma_reads : Reads ",".toList [.comma] := fun _ => rfl

mutual

theorem compact_reads : ∀ v : Json, Reads v.compact.toList v.tokensOf
  | .string s => writeString_reads s
  | .array items => by
      have inner := comma_reads.intercalate (compactItems_reads items)
      simpa [compact, tokensOf] using (openBracket_reads.append inner).append closeBracket_reads
  | .object members => by
      have inner := comma_reads.intercalate (compactMembers_reads members)
      simpa [compact, tokensOf] using (openBrace_reads.append inner).append closeBrace_reads

theorem compactItems_reads : ∀ items : List Json,
    List.Forall₂ (fun part ts => Reads part.toList ts) (compactItems items) (tokensOfItems items)
  | [] => .nil
  | item :: items => .cons (compact_reads item) (compactItems_reads items)

theorem compactMembers_reads : ∀ members : List (String × Json),
    List.Forall₂ (fun part ts => Reads part.toList ts) (compactMembers members)
      (tokensOfMembers members)
  | [] => .nil
  | (key, value) :: members => by
      refine .cons ?_ (compactMembers_reads members)
      simpa using ((writeString_reads key).append colon_reads).append (compact_reads value)

end

theorem newLine_reads (depth : Nat) : Reads (newLine depth).toList [] := by
  apply Reads.blanks
  intro c hc
  rw [newLine, String.toList_ofList] at hc
  rcases List.mem_cons.1 hc with rfl | hc
  · rfl
  · rw [List.eq_of_mem_replicate hc]
    rfl

theorem block_reads {opening closing : String} {ts ts' : List Token} {parts : List String}
    {tss : List (List Token)} (depth : Nat) (ho : Reads opening.toList ts)
    (hc : Reads closing.toList ts')
    (h : List.Forall₂ (fun part ts => Reads part.toList ts) parts tss) :
    Reads (block depth opening closing parts).toList (ts ++ separated tss ++ ts') := by
  unfold block
  cases h with
  | nil => simpa [separated] using ho.append hc
  | @cons part ts parts tss first later =>
      have comma := comma_reads.append (newLine_reads (depth + 1))
      rw [← String.toList_append] at comma
      have inner := Reads.intercalate comma (List.Forall₂.cons first later)
      have whole := ((ho.append (newLine_reads (depth + 1))).append inner).append
        ((newLine_reads depth).append hc)
      simpa using whole

mutual

theorem prettyAt_reads (depth : Nat) : ∀ v : Json, Reads (v.prettyAt depth).toList v.tokensOf
  | .string s => writeString_reads s
  | .array items => by
      simpa [prettyAt, tokensOf] using
        block_reads depth openBracket_reads closeBracket_reads (prettyItems_reads _ items)
  | .object members => by
      simpa [prettyAt, tokensOf] using
        block_reads depth openBrace_reads closeBrace_reads (prettyMembers_reads _ members)

theorem prettyItems_reads (depth : Nat) : ∀ items : List Json,
    List.Forall₂ (fun part ts => Reads part.toList ts) (prettyItems depth items)
      (tokensOfItems items)
  | [] => .nil
  | item :: items => .cons (prettyAt_reads depth item) (prettyItems_reads depth items)

theorem prettyMembers_reads (depth : Nat) : ∀ members : List (String × Json),
    List.Forall₂ (fun part ts => Reads part.toList ts) (prettyMembers depth members)
      (tokensOfMembers members)
  | [] => .nil
  | (key, value) :: members => by
      refine .cons ?_ (prettyMembers_reads depth members)
      have blank : Reads " ".toList [] := fun _ => rfl
      have colon := colon_reads.append blank
      rw [← String.toList_append] at colon
      simpa using ((writeString_reads key).append colon).append (prettyAt_reads depth value)

end

/-! ## Whole texts -/

theorem Reads.tokens_eq {s : String} {ts : List Token} (h : Reads s.toList ts) : tokens s = ts := by
  have whole := h []
  rwa [List.append_nil, tokensFrom, finish, List.append_nil] at whole

theorem tokens_compact (v : Json) : tokens v.compact = v.tokensOf := (compact_reads v).tokens_eq

theorem tokens_pretty (v : Json) : tokens v.pretty = v.tokensOf := (prettyAt_reads 0 v).tokens_eq

end Scad.Json
