import Pinpoint.Proofs.Numerals
import Pinpoint.Proofs.Utf8
import Pinpoint.Terminal

/-!
# What printing changes

A printed text is the text itself and a line feed, unless one of its emoji codes stands for an
emoji or one of its characters is dropped or is a tab. Which codes a text has depends on where
reading it starts, since a code that stands for nothing still uses up the colon at its end.

Colons tell whether a code was replaced. A code that stands for an emoji loses both of its colons,
no emoji has one, and nothing else that printing does adds or removes any.
-/

namespace Pinpoint.Terminal

/-! ## Emoji have no colons -/

namespace Emoji

/-- Whether no emoji of a table has a colon, by the bytes of its UTF-8 form. -/
def colonFree (table : List (String × String)) : Bool :=
  table.all fun entry => !entry.2.toByteArray.data.toList.contains 0x3A

theorem colonFree_symbols (initial : Char) : colonFree (symbols initial) = true := by
  unfold symbols
  split <;> decide +kernel

theorem toByteArray_eq_encodeUtf8 (text : String) :
    text.toByteArray.data.toList = Text.encodeUtf8 text.toList := by
  rw [← String.utf8Encode_toList, List.utf8Encode, List.data_toByteArray]
  rfl

theorem not_mem_of_colonFree {table : List (String × String)} (free : colonFree table = true)
    {name emoji : String} (listed : (name, emoji) ∈ table) : ':' ∉ emoji.toList := by
  have absent := List.all_eq_true.mp free _ listed
  rw [toByteArray_eq_encodeUtf8, Bool.not_eq_true', List.contains_eq_mem,
    decide_eq_false_iff_not] at absent
  exact mt (@Text.mem_encodeUtf8 ':' (by decide) _).mpr absent

theorem not_mem_of_symbol? {name symbol : List Char} (named : symbol? name = some symbol) :
    ':' ∉ symbol := by
  simp only [symbol?, Option.bind_eq_bind, Option.bind_eq_some_iff] at named
  rcases named with ⟨initial, -, emoji, found, same⟩
  cases same
  rcases List.lookup_eq_some_iff.mp found with ⟨before, after, table, -⟩
  apply not_mem_of_colonFree (colonFree_symbols initial)
  rw [table]
  exact List.mem_append_right _ List.mem_cons_self

/-- The characters that a flag is made of lie far above the colon. -/
theorem ofNat_ne_colon {number : Nat} (large : 0x3A < number) : Char.ofNat number ≠ ':' := by
  intro same
  by_cases valid : number.isValidChar
  · have code := Text.toNat_val_ofNat valid
    rw [same] at code
    exact absurd (code.symm ▸ large) (by decide)
  · rw [Char.ofNat, dif_neg valid] at same
    exact absurd same (by decide)

theorem regionalIndicator_ne_colon (letter : Char) : ':' ≠ regionalIndicator letter :=
  (ofNat_ne_colon (by omega)).symm

theorem tag_ne_colon (letter : Char) : ':' ≠ tag letter :=
  (ofNat_ne_colon (by omega)).symm

theorem not_mem_of_flag? {name flag : List Char} (named : flag? name = some flag) :
    ':' ∉ flag := by
  unfold flag? at named
  split at named
  · next code _ =>
      cases named
      intro member
      rcases List.mem_map.mp member with ⟨letter, -, same⟩
      exact regionalIndicator_ne_colon letter same.symm
  · split at named
    · next code _ =>
        cases named
        intro member
        rcases List.mem_append.mp member with member | member
        · rcases List.mem_cons.mp member with same | member
          · exact absurd same (by decide)
          · rcases List.mem_map.mp member with ⟨letter, -, same⟩
            exact tag_ne_colon letter same.symm
        · exact absurd (List.mem_singleton.mp member) (by decide)
    · rcases Option.map_eq_some_iff.mp named with ⟨letter, -, same⟩
      cases same
      exact mt List.mem_singleton.mp (regionalIndicator_ne_colon letter)

theorem skinTone_ne_colon {name plain : List Char} {tone : Char}
    (toned : skinTone? name = some (plain, tone)) : ':' ≠ tone := by
  rcases List.exists_of_findSome?_eq_some toned with ⟨⟨ending, listed⟩, member, found⟩
  simp only [Option.bind_eq_bind, Option.bind_eq_some_iff] at found
  rcases found with ⟨rest, -, chosen⟩
  split at chosen
  · cases chosen
    have tones : ∀ entry ∈ skinTones, ':' ≠ entry.2 := by decide
    exact tones _ member
  · cases chosen

theorem not_mem_withTone {tone : Char} (toneNe : ':' ≠ tone) {symbol : List Char}
    (free : ':' ∉ symbol) : ':' ∉ withTone tone symbol := by
  unfold withTone
  split <;> simp_all

theorem not_mem_of_toned? {name toned : List Char} (named : toned? name = some toned) :
    ':' ∉ toned := by
  simp only [toned?, Option.bind_eq_bind, Option.bind_eq_some_iff] at named
  rcases named with ⟨⟨plain, tone⟩, chosen, symbol, found, same⟩
  cases same
  exact not_mem_withTone (skinTone_ne_colon chosen) (not_mem_of_symbol? found)

/-- No emoji has a colon. -/
theorem not_mem_of_ofName? {name emoji : List Char} (named : ofName? name = some emoji) :
    ':' ∉ emoji := by
  unfold ofName? ofLowerCase? at named
  split at named
  · next symbol found =>
      cases named
      exact not_mem_of_symbol? found
  · split at named
    · next flag found =>
        cases named
        exact not_mem_of_flag? found
    · exact not_mem_of_toned? named

end Emoji

/-! ## Emoji codes from left to right -/

/-- Whether characters may stand between the colons of an emoji code. -/
def IsCode (code : List Char) : Prop :=
  ∀ character ∈ code, isCodeCharacter character = true

/-- Whether no emoji code comes next, after a colon. -/
def NoCode (text : List Char) : Prop :=
  ∀ code rest, IsCode code → text ≠ code ++ ':' :: rest

/-- Whether a code is among the emoji codes that are met when a text is read from left to right. -/
inductive MeetsCode (code : List Char) : List Char → Prop
  | here {rest : List Char} (isCode : IsCode code) : MeetsCode code (':' :: code ++ ':' :: rest)
  | afterCode {other rest : List Char} (isCode : IsCode other) (later : MeetsCode code rest) :
      MeetsCode code (':' :: other ++ ':' :: rest)
  | afterColon {rest : List Char} (noCode : NoCode rest) (later : MeetsCode code rest) :
      MeetsCode code (':' :: rest)
  | afterCharacter {character : Char} {rest : List Char} (plain : character ≠ ':')
      (later : MeetsCode code rest) : MeetsCode code (character :: rest)

/-- Whether an emoji code stands for no emoji, in any variant. -/
def Unknown (code : List Char) : Prop :=
  Emoji.ofName? (variant code).1 = none

theorem isCode_takeWhile (text : List Char) : IsCode (text.takeWhile isCodeCharacter) :=
  List.all_eq_true.mp List.all_takeWhile

theorem takeWhile_code {code rest : List Char} (isCode : IsCode code) :
    (code ++ ':' :: rest).takeWhile isCodeCharacter = code := by
  have stops : ¬isCodeCharacter ':' = true := by decide
  rw [List.takeWhile_append_of_pos isCode, List.takeWhile_cons_of_neg stops, List.append_nil]

theorem drop_code {code rest : List Char} (isCode : IsCode code) :
    (code ++ ':' :: rest).drop
      ((code ++ ':' :: rest).takeWhile isCodeCharacter).length = ':' :: rest := by
  rw [takeWhile_code isCode, List.drop_left]

theorem eq_code_of_drop {text rest : List Char}
    (ended : text.drop (text.takeWhile isCodeCharacter).length = ':' :: rest) :
    text = text.takeWhile isCodeCharacter ++ ':' :: rest := by
  have start := List.prefix_iff_eq_take.mp (List.takeWhile_prefix isCodeCharacter (l := text))
  calc
    text = text.take (text.takeWhile isCodeCharacter).length ++
        text.drop (text.takeWhile isCodeCharacter).length := (List.take_append_drop _ _).symm
    _ = text.takeWhile isCodeCharacter ++ ':' :: rest := by rw [← start, ended]

theorem noCode_of_drop {text : List Char}
    (ended : ∀ rest, text.drop (text.takeWhile isCodeCharacter).length ≠ ':' :: rest) :
    NoCode text := by
  intro code rest isCode same
  exact ended rest (same ▸ drop_code isCode)

/-! ## Replacing the codes -/

theorem replaceEmoji_code {code : List Char} (isCode : IsCode code) (rest : List Char) :
    replaceEmoji (':' :: code ++ ':' :: rest) = replacement code ++ replaceEmoji rest := by
  have dropped : (code ++ ':' :: rest).drop (code.length + 1) = rest := by
    rw [← List.drop_drop, List.drop_left]
    rfl
  rw [List.cons_append, replaceEmoji, if_pos rfl, drop_code isCode]
  simp only [takeWhile_code isCode, dropped]

theorem replaceEmoji_colon {rest : List Char} (noCode : NoCode rest) :
    replaceEmoji (':' :: rest) = ':' :: replaceEmoji rest := by
  rw [replaceEmoji, if_pos rfl]
  split
  · next after ended =>
      exact absurd (eq_code_of_drop ended) (noCode _ _ (isCode_takeWhile rest))
  · rfl

theorem replaceEmoji_cons {character : Char} (plain : character ≠ ':') (rest : List Char) :
    replaceEmoji (character :: rest) = character :: replaceEmoji rest := by
  rw [replaceEmoji, if_neg plain]

/-- A text is read code by code: it starts with a code, with a colon that starts none, or with
another character. -/
theorem codes_induction {motive : List Char → Prop} (nil : motive [])
    (code : ∀ code rest, IsCode code → motive rest → motive (':' :: code ++ ':' :: rest))
    (colon : ∀ rest, NoCode rest → motive rest → motive (':' :: rest))
    (plain : ∀ character rest, character ≠ ':' → motive rest → motive (character :: rest))
    (text : List Char) : motive text := by
  fun_induction replaceEmoji text with
  | case1 => exact nil
  | case2 rest after ended name ih =>
      have dropped : rest.drop (name.length + 1) = after := by
        rw [← List.drop_drop, ended]
        rfl
      have whole := eq_code_of_drop ended
      rw [dropped] at ih
      rw [whole]
      exact code _ _ (isCode_takeWhile rest) ih
  | case3 rest ended ih => exact colon _ (noCode_of_drop ended) ih
  | case4 character rest different ih => exact plain _ _ different ih

theorem replacement_unknown {code : List Char} (unknown : Unknown code) :
    replacement code = ':' :: code ++ [':'] := by
  have named : Emoji.ofName? (variant code).1 = none := unknown
  simp only [replacement, named]

theorem not_mem_of_isCode {code : List Char} (isCode : IsCode code) : ':' ∉ code :=
  fun member => absurd (isCode ':' member) (by decide)

/-- A code asks for a variant by one of the listed endings, or for none. -/
theorem variant_cases (code : List Char) :
    variant code = (code, []) ∨
      ∃ entry ∈ variants, ∃ name, entry.1.toList.isSuffixOf? code = some name ∧
        variant code = (name, [entry.2]) := by
  rcases Option.getD_eq_iff.mp (Eq.refl (variant code)) with asked | ⟨-, same⟩
  · rcases List.exists_of_findSome?_eq_some asked with ⟨⟨ending, selector⟩, listed, chosen⟩
    rcases Option.map_eq_some_iff.mp chosen with ⟨name, ends, read⟩
    exact Or.inr ⟨(ending, selector), listed, name, ends, read.symm⟩
  · exact Or.inl same.symm

/-- No selector of a variant is a colon. -/
theorem not_mem_variant (code : List Char) : ':' ∉ (variant code).2 := by
  rcases variant_cases code with plain | ⟨entry, listed, name, -, read⟩
  · rw [plain]
    exact List.not_mem_nil
  · have selectors : ∀ entry ∈ variants, ':' ∉ [entry.2] := by decide
    rw [read]
    exact selectors entry listed

theorem not_mem_replacement {code : List Char} (known : ¬Unknown code) :
    ':' ∉ replacement code := by
  unfold replacement
  simp only
  split
  · next emoji named =>
      rw [List.mem_append, not_or]
      exact ⟨Emoji.not_mem_of_ofName? named, not_mem_variant code⟩
  · next none => exact absurd none known

theorem count_replacement_le {code : List Char} (isCode : IsCode code) :
    (replacement code).count ':' ≤ 2 := by
  by_cases unknown : Unknown code
  · have free := List.count_eq_zero_of_not_mem (not_mem_of_isCode isCode)
    rw [replacement_unknown unknown, List.count_append, List.count_cons_self, free]
    decide
  · rw [List.count_eq_zero_of_not_mem (not_mem_replacement unknown)]
    omega

theorem count_code {code : List Char} (isCode : IsCode code) (rest : List Char) :
    (':' :: code ++ ':' :: rest).count ':' = rest.count ':' + 2 := by
  have free := List.count_eq_zero_of_not_mem (not_mem_of_isCode isCode)
  rw [List.count_append, List.count_cons_self, List.count_cons_self, free]
  omega

theorem count_replaceEmoji_le (text : List Char) :
    (replaceEmoji text).count ':' ≤ text.count ':' := by
  induction text using codes_induction with
  | nil => exact Nat.le_of_eq (by rw [replaceEmoji])
  | code code rest isCode ih =>
      have replaced := count_replacement_le isCode
      rw [replaceEmoji_code isCode, count_code isCode, List.count_append]
      omega
  | colon rest noCode ih =>
      rw [replaceEmoji_colon noCode, List.count_cons_self, List.count_cons_self]
      omega
  | plain character rest plain ih =>
      rw [replaceEmoji_cons plain, List.count_cons_of_ne plain, List.count_cons_of_ne plain]
      exact ih

/-- A code that stands for an emoji takes its colons away. -/
theorem count_replaceEmoji_lt {code text : List Char} (known : ¬Unknown code)
    (met : MeetsCode code text) : (replaceEmoji text).count ':' < text.count ':' := by
  induction met with
  | @here rest isCode =>
      have others := count_replaceEmoji_le rest
      rw [replaceEmoji_code isCode, count_code isCode, List.count_append,
        List.count_eq_zero_of_not_mem (not_mem_replacement known)]
      omega
  | @afterCode other rest isCode _ ih =>
      have replaced := count_replacement_le isCode
      rw [replaceEmoji_code isCode, count_code isCode, List.count_append]
      omega
  | afterColon noCode _ ih =>
      rw [replaceEmoji_colon noCode, List.count_cons_self, List.count_cons_self]
      omega
  | afterCharacter plain _ ih =>
      rw [replaceEmoji_cons plain, List.count_cons_of_ne plain, List.count_cons_of_ne plain]
      exact ih

theorem replaceEmoji_eq_self {text : List Char}
    (unknown : ∀ code, MeetsCode code text → Unknown code) : replaceEmoji text = text := by
  induction text using codes_induction with
  | nil => rw [replaceEmoji]
  | code code rest isCode ih =>
      rw [replaceEmoji_code isCode, replacement_unknown (unknown code (.here isCode)),
        ih fun other met => unknown other (.afterCode isCode met), List.append_assoc]
      rfl
  | colon rest noCode ih =>
      rw [replaceEmoji_colon noCode, ih fun other met => unknown other (.afterColon noCode met)]
  | plain character rest plain ih =>
      rw [replaceEmoji_cons plain, ih fun other met => unknown other (.afterCharacter plain met)]

end Pinpoint.Terminal

namespace Pinpoint.Text

/-! ## Replacing tabs -/

theorem count_joinFields {separator character : Char} (different : separator ≠ character)
    (texts : List (List Char)) :
    (joinFields separator texts).count character = texts.flatten.count character := by
  induction texts with
  | nil => rfl
  | cons first others ih =>
      cases others with
      | nil => rw [joinFields, List.flatten_singleton]
      | cons second others =>
          rw [joinFields_cons _ _ (List.cons_ne_nil _ _), List.count_append,
            List.count_cons_of_ne different, ih, ← List.count_append]
          rfl

theorem count_fillToStop {character : Char} (notSpace : ' ' ≠ character) (text : List Char) :
    (fillToStop text).count character = text.count character := by
  simp [fillToStop, spaces, List.count_replicate, notSpace]

theorem count_expandTabs {character : Char} (notSpace : ' ' ≠ character)
    (notTab : '\t' ≠ character) (line : List Char) :
    (expandTabs line).count character = line.count character := by
  have nonempty := fields_ne_nil '\t' line
  have filled (parts : List (List Char)) :
      (parts.flatMap fillToStop).count character = parts.flatten.count character := by
    induction parts with
    | nil => rfl
    | cons part parts ih =>
        rw [List.flatMap_cons, List.flatten_cons, List.count_append, List.count_append, ih,
          count_fillToStop notSpace]
  calc
    (expandTabs line).count character =
        ((fields '\t' line).dropLast ++ [(fields '\t' line).getLast nonempty]).flatten.count
          character := by
      rw [expandTabs, List.count_append, filled, List.flatten_append, List.count_append,
        List.flatten_singleton, List.getLastD_eq_getLast?, List.getLast?_eq_some_getLast nonempty]
      rfl
    _ = line.count character := by
      rw [List.dropLast_concat_getLast, ← count_joinFields notTab, joinFields_fields]

theorem tab_not_mem_expandTabs (line : List Char) : '\t' ∉ expandTabs line := by
  intro member
  rcases List.mem_append.mp member with member | member
  · rcases List.mem_flatMap.mp member with ⟨part, listed, member⟩
    have partFree := not_mem_of_mem_fields (List.dropLast_subset _ listed)
    simp [fillToStop, spaces, partFree] at member
  · have nonempty := fields_ne_nil '\t' line
    rw [List.getLastD_eq_getLast?, List.getLast?_eq_some_getLast nonempty] at member
    exact not_mem_of_mem_fields (List.getLast_mem nonempty) member

theorem expandTabs_eq_self {line : List Char} (free : '\t' ∉ line) : expandTabs line = line := by
  rw [expandTabs, fields_of_not_mem free]
  rfl

end Pinpoint.Text

namespace Pinpoint.Terminal

theorem count_expandAllTabs {character : Char} (notSpace : ' ' ≠ character)
    (notTab : '\t' ≠ character) (notFeed : '\n' ≠ character) (text : List Char) :
    (expandAllTabs text).count character = text.count character := by
  have lines (parts : List (List Char)) :
      (parts.map Text.expandTabs).flatten.count character = parts.flatten.count character := by
    induction parts with
    | nil => rfl
    | cons part parts ih =>
        rw [List.map_cons, List.flatten_cons, List.flatten_cons, List.count_append,
          List.count_append, ih, Text.count_expandTabs notSpace notTab]
  rw [expandAllTabs, Text.count_joinFields notFeed, lines, ← Text.count_joinFields notFeed,
    Text.joinFields_fields]

theorem tab_not_mem_expandAllTabs (text : List Char) : '\t' ∉ expandAllTabs text := by
  intro member
  rcases Text.mem_joinFields member with same | ⟨line, listed, member⟩
  · exact absurd same (by decide)
  · rcases List.mem_map.mp listed with ⟨whole, -, rfl⟩
    exact Text.tab_not_mem_expandTabs whole member

theorem expandAllTabs_eq_self {text : List Char} (free : '\t' ∉ text) :
    expandAllTabs text = text := by
  have feedNe : '\n' ≠ '\t' := by decide
  have none : '\t' ∉ (Text.fields '\n' text).flatten := by
    rw [← List.count_eq_zero, ← Text.count_joinFields feedNe, Text.joinFields_fields,
      List.count_eq_zero]
    exact free
  have lines : (Text.fields '\n' text).map Text.expandTabs = Text.fields '\n' text := by
    apply (List.map_congr_left ?_).trans (List.map_id _)
    intro line listed
    exact Text.expandTabs_eq_self fun member => none (List.mem_flatten_of_mem listed member)
  rw [expandAllTabs, lines, Text.joinFields_fields]

/-! ## Printing a text unchanged -/

/-- Whether printing has nothing to change in a text. -/
structure Unaltered (text : List Char) : Prop where
  codes_unknown : ∀ code, MeetsCode code text → Unknown code
  none_dropped : ∀ character ∈ text, isDropped character = false
  no_tab : '\t' ∉ text

theorem dropControls_eq_self {text : List Char}
    (kept : ∀ character ∈ text, isDropped character = false) : dropControls text = text := by
  apply List.filter_eq_self.mpr
  intro character member
  rw [kept character member]
  rfl

theorem count_dropControls {character : Char} (kept : isDropped character = false)
    (text : List Char) : (dropControls text).count character = text.count character :=
  List.count_filter (by rw [kept]; rfl)

theorem not_mem_dropControls {character : Char} (dropped : isDropped character = true)
    (text : List Char) : character ∉ dropControls text := by
  intro member
  have kept := (List.mem_filter.mp member).2
  rw [dropped] at kept
  exact Bool.false_ne_true kept

/-- A text is printed as it is exactly when printing has nothing to change in it. -/
theorem print_eq_iff (text : List Char) : print text = text ++ ['\n'] ↔ Unaltered text := by
  rw [print, List.append_cancel_right_eq]
  constructor
  · intro same
    have colons : (replaceEmoji text).count ':' = text.count ':' := by
      rw [← count_dropControls (by decide : isDropped ':' = false),
        ← count_expandAllTabs (by decide) (by decide) (by decide), same]
    refine ⟨?_, ?_, ?_⟩
    · intro code met
      by_cases known : Unknown code
      · exact known
      · exact absurd colons (Nat.ne_of_lt (count_replaceEmoji_lt known met))
    · intro character member
      rw [← Bool.not_eq_true]
      intro dropped
      have survives {other : Char} (kept : isDropped other = false) : other ≠ character := by
        rintro rfl
        exact Bool.false_ne_true (kept.symm.trans dropped)
      apply not_mem_dropControls dropped (replaceEmoji text)
      rw [← List.count_pos_iff, ← count_expandAllTabs (survives (by decide))
        (survives (by decide)) (survives (by decide)), same, List.count_pos_iff]
      exact member
    · rw [← same]
      exact tab_not_mem_expandAllTabs _
  · intro unaltered
    rw [replaceEmoji_eq_self unaltered.codes_unknown, dropControls_eq_self unaltered.none_dropped,
      expandAllTabs_eq_self unaltered.no_tab]

end Pinpoint.Terminal
