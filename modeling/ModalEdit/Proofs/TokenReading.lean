import ModalEdit.Proofs.Quoting
import ModalEdit.Toml.Reader

namespace ModalEdit.Toml

variable {gap t w r : Text}

lemma tokensAfter_blank (gap r : Text) :
    tokensAfter gap (' ' :: r) = tokensAfter (gap ++ [' ']) r := by
  rw [tokensAfter.eq_def]
  simp [isBlank]

lemma tokensAfter_punctuation {c : Char} {l : Lexeme} (h : punctuation? c = some l) (gap r : Text) :
    tokensAfter gap (c :: r) = (tokensAfter [] r).map (⟨gap, l⟩ :: ·) := by
  have hb : isBlank c = false := by
    rw [Bool.eq_false_iff]
    intro hb
    simp [isBlank] at hb
    rcases hb with rfl | rfl <;> simp [punctuation?] at h
  have hc : c ≠ '#' := by
    rintro rfl
    simp [punctuation?] at h
  rw [tokensAfter.eq_def]
  split <;> rename_i hx <;> cases hx
  · simp [punctuation?] at h
  · simp [hb, hc, h]

lemma tokensAfter_quoted {long : Bool} (hw : Quoted w t long)
    (hr : ∀ r', r ≠ '"' :: r' ∧ r ≠ '\'' :: r') (gap : Text) :
    tokensAfter gap (w ++ r) = (tokensAfter [] r).map (⟨gap, .string t long⟩ :: ·) := by
  obtain ⟨q, x, rfl, hq, hx⟩ := hw
  have hs := hx r fun r' => by
    rcases hq with rfl | rfl
    · exact (hr r').1
    · exact (hr r').2
  have hp : punctuation? q = none ∧ isBlank q = false ∧ q ≠ '#' ∧ q ≠ '\r' := by
    rcases hq with rfl | rfl <;> decide
  obtain ⟨hp, hb, hc, hn⟩ := hp
  rw [List.cons_append]
  generalize x ++ r = y at hs
  rw [tokensAfter.eq_def]
  split <;> rename_i h <;> cases h
  · contradiction
  · simp only [hb, Bool.false_eq_true, if_false, hc, hp, hq, if_true]
    split <;> rename_i h <;> cases hs.symm.trans h
    rfl

lemma tokensAfter_atom (ht : t ≠ []) (ha : ∀ c ∈ t, isAtomChar c = true)
    (hr : ∀ c r', r = c :: r' → isAtomChar c = false) (gap : Text) :
    tokensAfter gap (t ++ r) = (tokensAfter [] r).map (⟨gap, .atom t⟩ :: ·) := by
  obtain ⟨c, t, rfl⟩ := List.exists_cons_of_ne_nil ht
  obtain ⟨hc, ha⟩ := List.forall_mem_cons.mp ha
  have hend : r.takeWhile isAtomChar = [] ∧ r.dropWhile isAtomChar = r := by
    cases r with
    | nil => exact ⟨rfl, rfl⟩
    | cons d r => simp [hr d r rfl]
  have htake : (t ++ r).takeWhile isAtomChar = t := by
    rw [List.takeWhile_append_of_pos ha, hend.1, List.append_nil]
  have hdrop : (t ++ r).dropWhile isAtomChar = r := by
    rw [List.dropWhile_append_of_pos ha, hend.2]
  have hx := hc
  simp only [isAtomChar, Bool.and_eq_true, bne_iff_ne, Bool.not_eq_true', Option.isNone_iff_eq_none,
    and_assoc] at hx
  obtain ⟨hp, hb, hh, hq, hs, -⟩ := hx
  rw [List.cons_append]
  generalize t ++ r = y at htake hdrop
  rw [tokensAfter.eq_def]
  split <;> rename_i h <;> cases h
  · simp [isAtomChar, isControl] at hc
  · simp [hp, hb, hh, hq, hs, hc, htake, hdrop]

lemma ascii_atomChar : ∀ n < 128, (Char.ofNat n).isAlphanum = true →
    isAtomChar (Char.ofNat n) = true := by
  decide +kernel

lemma isBareKey_iff {t : Text} : isBareKey t = true ↔ t ≠ [] ∧ t.all State.isKeyChar = true := by
  simp [isBareKey, State.isKeyChar, List.isEmpty_eq_false_iff]

lemma isAtomChar_of_bare {t : Text} (h : isBareKey t = true) : ∀ c ∈ t, isAtomChar c = true := by
  simp only [isBareKey, Bool.and_eq_true, List.all_eq_true, Bool.or_eq_true, beq_iff_eq] at h
  intro c hc
  rcases h.2 c hc with (ha | rfl) | rfl
  · have hn : c.toNat < 128 := by
      delta Char.isAlphanum Char.isAlpha Char.isUpper Char.isLower Char.isDigit at ha
      simp [UInt32.le_iff_toNat_le] at ha
      omega
    have := ascii_atomChar c.toNat hn
    rw [Char.ofNat_toNat] at this
    exact this ha
  · decide
  · decide

namespace State

def feed (s : State) (gap t : Text) : Option State := (tokensAfter gap t).bind (·.foldlM step s)

@[simp]
lemma feed_nil (s : State) : s.feed [] [] = some s := by
  simp [feed, tokensAfter]

lemma feed_token {k : Token} (h : tokensAfter gap t = (tokensAfter [] r).map (k :: ·)) (s : State) :
    s.feed gap t = (s.step k).bind (·.feed [] r) := by
  rw [feed, h]
  cases hr : tokensAfter [] r with
  | none => cases hs : s.step k <;> simp [feed, hr]
  | some ts => cases hs : s.step k <;> simp [feed, hr, hs]

lemma feed_blank (s : State) (gap r : Text) : s.feed gap (' ' :: r) = s.feed (gap ++ [' ']) r := by
  rw [feed, tokensAfter_blank, feed]

lemma feed_punctuation {c : Char} {l : Lexeme} (h : punctuation? c = some l) (s : State)
    (gap r : Text) : s.feed gap (c :: r) = (s.step ⟨gap, l⟩).bind (·.feed [] r) :=
  feed_token (tokensAfter_punctuation h gap r) s

abbrev between (root : Entries) (current : List Text) : State := { root, current }

variable (root : Entries) (current : List Text)

@[simp]
lemma finish_between : (between root current).finish = some root := by
  simp [finish]

lemma feed_key (k r : Text) :
    (between root current).feed [] (writeKey k ++ ' ' :: r) =
      State.feed ⟨root, current, [], .afterKey [k]⟩ [] (' ' :: r) := by
  have hatom : ∀ c r', ' ' :: r = c :: r' → isAtomChar c = false := by
    intro c r' h
    cases h
    decide
  cases hb : isBareKey k with
  | true =>
    have hk := isBareKey_iff.mp hb
    have ht := tokensAfter_atom hk.1 (isAtomChar_of_bare hb) hatom []
    rw [writeKey, if_pos hb, feed_token ht]
    simp [step, startKey, keyOf?, hk.2]
  | false =>
    have ht := tokensAfter_quoted (writeKey_quoted hb) (r := ' ' :: r) (fun _ => by simp) []
    rw [feed_token ht]
    simp [step, startKey, keyOf?]

lemma feed_equals (k r : Text) :
    State.feed ⟨root, current, [], .afterKey [k]⟩ [] (" = ".toList ++ r) =
      State.feed ⟨root, current, [.line [k]], .value⟩ [' '] r := by
  change State.feed _ [] (' ' :: '=' :: ' ' :: r) = _
  rw [feed_blank, feed_punctuation (l := .equals) rfl]
  simp only [step, bindKey, Option.bind_some]
  rw [feed_blank]
  rfl

def place (root : Entries) (current : List Text) (k : Text) (v : Value) : Option Entries :=
  root.modify? (·.insertDotted? [k] v) current

lemma feed_newline (r : Text) :
    State.feed ⟨root, current, [], .lineEnd⟩ [] ('\n' :: r) =
      (between root current).feed [] r := by
  rw [feed_punctuation (l := .newline) rfl]
  rfl

lemma feed_string (k v r : Text) :
    State.feed ⟨root, current, [.line [k]], .value⟩ [' '] (writeString v ++ '\n' :: r) =
      (place root current k (.text v)).bind fun root => (between root current).feed [] r := by
  obtain ⟨long, hw⟩ := writeString_quoted v
  have ht := tokensAfter_quoted hw (r := '\n' :: r) (fun _ => by simp) [' ']
  rw [feed_token ht]
  simp only [step, onValue, complete, place]
  cases root.modify? (·.insertDotted? [k] (.text v)) current with
  | none => rfl
  | some root => exact feed_newline root current r

lemma feed_entry (k v r : Text) :
    (between root current).feed [] (writeKey k ++ " = ".toList ++ writeString v ++ ['\n'] ++ r) =
      (place root current k (.text v)).bind fun root => (between root current).feed [] r := by
  have he : writeKey k ++ " = ".toList ++ writeString v ++ ['\n'] ++ r =
      writeKey k ++ ' ' :: ("= ".toList ++ (writeString v ++ '\n' :: r)) := by simp
  rw [he, feed_key]
  exact (feed_equals root current k _).trans (feed_string root current k v r)

lemma feed_blankLine (r : Text) :
    (between root current).feed [] ('\n' :: r) = (between root current).feed [] r := by
  rw [feed_punctuation (l := .newline) rfl]
  rfl

lemma feed_header {k : Text} (hk : isBareKey k = true) (r : Text) :
    (between root current).feed [] ('[' :: (k ++ ']' :: '\n' :: r)) =
      (root.openTable? [k]).bind fun root => (between root [k]).feed [] r := by
  have hne := isBareKey_iff.mp hk
  have ht := tokensAfter_atom hne.1 (isAtomChar_of_bare hk) (r := ']' :: '\n' :: r)
    (fun c r' h => by cases h; decide) []
  rw [feed_punctuation (l := .openBracket) rfl]
  simp only [step, Option.bind_some]
  rw [feed_token ht]
  simp only [step, keyOf?, hne.2, if_true, Option.map_some, Option.bind_some]
  rw [feed_punctuation (l := .closeBracket) rfl]
  simp only [step, openHeader, Bool.false_eq_true, if_false]
  cases root.openTable? [k] with
  | none => rfl
  | some root => exact feed_newline root [k] r

lemma feed_elementHeader {k : Text} (hk : isBareKey k = true) (r : Text) :
    (between root current).feed [] ('[' :: '[' :: (k ++ ']' :: ']' :: '\n' :: r)) =
      (root.openElement? [k]).bind fun root => (between root [k]).feed [] r := by
  have hne := isBareKey_iff.mp hk
  have ht := tokensAfter_atom hne.1 (isAtomChar_of_bare hk) (r := ']' :: ']' :: '\n' :: r)
    (fun c r' h => by cases h; decide) []
  rw [feed_punctuation (l := .openBracket) rfl]
  simp only [step, Option.bind_some]
  rw [feed_punctuation (l := .openBracket) rfl]
  simp only [step, List.isEmpty_nil, if_true, Option.bind_some]
  rw [feed_token ht]
  simp only [step, keyOf?, hne.2, if_true, Option.map_some, Option.bind_some, List.nil_append]
  rw [feed_punctuation (l := .closeBracket) rfl]
  simp only [step, if_true, Option.bind_some]
  rw [feed_punctuation (l := .closeBracket) rfl]
  simp only [step, openHeader, List.isEmpty_nil, if_true]
  cases root.openElement? [k] with
  | none => rfl
  | some root => exact feed_newline root [k] r

lemma feed_emptyArray (k r : Text) :
    (between root current).feed [] (writeKey k ++ " = ".toList ++ '[' :: ']' :: '\n' :: r) =
      (place root current k (.array false [])).bind fun root =>
        (between root current).feed [] r := by
  have he : writeKey k ++ " = ".toList ++ '[' :: ']' :: '\n' :: r =
      writeKey k ++ ' ' :: ("= ".toList ++ '[' :: ']' :: '\n' :: r) := by simp
  rw [he, feed_key]
  refine (feed_equals root current k _).trans ?_
  rw [feed_punctuation (l := .openBracket) rfl]
  simp only [step, onValue, Option.bind_some]
  rw [feed_punctuation (l := .closeBracket) rfl]
  simp only [step, close, complete, place]
  cases root.modify? (·.insertDotted? [k] (.array false [])) current with
  | none => rfl
  | some root => exact feed_newline root current r

end State

lemma read?_feed {t : Text} {c : Char} (ht : t.head? = some c) (hc : c ≠ '\ufeff') :
    read? t = (({} : State).feed [] t).bind State.finish := by
  have htokens : tokens t = tokensAfter [] t := by
    rw [tokens]
    rintro r rfl
    exact hc (Option.some.inj ht).symm
  rw [read?, htokens, State.feed]
  cases tokensAfter [] t <;> rfl

end ModalEdit.Toml
