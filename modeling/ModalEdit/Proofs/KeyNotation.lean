import Mathlib.Data.List.TakeWhile
import Mathlib.Tactic.Common
import ModalEdit.Script

/-! Key names in angle brackets: a name is read as its key wherever it stands, unless an opening
bracket before it is still open. Keys with their opening brackets written by name are read back. -/

namespace ModalEdit.Script

variable {p t name : Text} {c : Char}

def token (name : Text) : Text := '<' :: (name ++ ['>'])

def Closed : Text → Prop
  | [] => True
  | c :: t => (c = '<' → '>' ∈ t) ∧ Closed t

instance Closed.decidable : (t : Text) → Decidable (Closed t)
  | [] => .isTrue trivial
  | c :: t =>
    have := decidable t
    inferInstanceAs (Decidable ((c = '<' → '>' ∈ t) ∧ Closed t))

def encodeKeys (keys : Text) : Text :=
  keys.flatMap fun c => if c = '<' then token ['l', 't'] else [c]

section pieces

lemma decodeKeys_nil : decodeKeys [] = [] := by
  rw [decodeKeys]

lemma decodeKeys_plain (hc : c ≠ '<') (t : Text) : decodeKeys (c :: t) = c :: decodeKeys t := by
  rw [decodeKeys, if_neg hc]

lemma takeWhile_bracket (hn : '>' ∉ name) (t : Text) :
    (name ++ '>' :: t).takeWhile (· != '>') = name ∧
      (name ++ '>' :: t).dropWhile (· != '>') = '>' :: t := by
  have hname : ∀ c ∈ name, (c != '>') = true := fun c hc =>
    bne_iff_ne.mpr (ne_of_mem_of_not_mem hc hn)
  constructor
  · simp [List.takeWhile_append_of_pos hname]
  · simp [List.dropWhile_append_of_pos hname]

lemma dropWhile_no_bracket (ht : '>' ∉ t) : t.dropWhile (· != '>') = [] :=
  List.dropWhile_eq_nil_iff.mpr fun _ hc => bne_iff_ne.mpr (ne_of_mem_of_not_mem hc ht)

lemma decodeKeys_bracketed (hn : '>' ∉ name) (t : Text) :
    decodeKeys ('<' :: (name ++ '>' :: t)) = keyOf name ++ decodeKeys t := by
  obtain ⟨htake, hdrop⟩ := takeWhile_bracket hn t
  rw [decodeKeys, if_pos rfl]
  split
  · rename_i rest h
    obtain ⟨-, rfl⟩ := List.cons.inj (hdrop.symm.trans h)
    rw [htake]
  · rename_i h
    cases hdrop.symm.trans h

lemma decodeKeys_open (ht : '>' ∉ t) : decodeKeys ('<' :: t) = '<' :: t := by
  rw [decodeKeys, if_pos rfl]
  split
  · rename_i h
    cases (dropWhile_no_bracket ht).symm.trans h
  · rfl

@[elab_as_elim]
theorem bracketInduction {P : Text → Prop} (nil : P [])
    (plain : ∀ c t, c ≠ '<' → P t → P (c :: t))
    (bracketed : ∀ name t, '>' ∉ name → P t → P ('<' :: (name ++ '>' :: t)))
    (opened : ∀ t, '>' ∉ t → P ('<' :: t)) (t : Text) : P t := by
  induction t using decodeKeys.induct with
  | case1 => exact nil
  | case2 t d rest h _ ih =>
    by_cases hm : '>' ∈ t
    · obtain ⟨name, rest', rfl, hn⟩ := List.eq_append_cons_of_mem hm
      obtain ⟨-, rfl⟩ := List.cons.inj ((takeWhile_bracket hn rest').2.symm.trans h)
      exact bracketed name rest' hn ih
    · exact opened t hm
  | case3 t h =>
    refine opened t fun hm => ?_
    obtain ⟨name, rest, rfl, hn⟩ := List.eq_append_cons_of_mem hm
    cases (takeWhile_bracket hn rest).2.symm.trans h
  | case4 c t hc ih => exact plain c t hc ih

lemma closed_behind (a t : Text) : Closed (a ++ '>' :: t) ↔ Closed t := by
  induction a with
  | nil => simp [Closed]
  | cons c a ih => simp [Closed, ih]

lemma keyNamed?_no_bracket (h : keyNamed? name = some c) : '<' ∉ name ∧ '>' ∉ name := by
  -- the names are made of letters and hyphens
  suffices hw : '<' ∉ (String.ofList (name.map Char.toLower)).toList ∧
      '>' ∉ (String.ofList (name.map Char.toLower)).toList by
    rw [String.toList_ofList] at hw
    exact hw.imp (mt List.mem_map_of_mem) (mt List.mem_map_of_mem)
  unfold keyNamed? at h
  split at h <;> first | (rename_i hw; rw [hw]; decide) | cases h

end pieces

lemma decodeKeys_append (hp : Closed p) (s : Text) :
    decodeKeys (p ++ s) = decodeKeys p ++ decodeKeys s := by
  induction p using bracketInduction with
  | nil => rw [decodeKeys_nil]; rfl
  | plain c t hc ih =>
    rw [List.cons_append, decodeKeys_plain hc, decodeKeys_plain hc, ih hp.2]
    rfl
  | bracketed name t hn ih =>
    have ht : Closed t := (closed_behind _ t).mp hp.2
    rw [List.cons_append, List.append_assoc, List.cons_append, decodeKeys_bracketed hn,
      decodeKeys_bracketed hn, ih ht, List.append_assoc]
  | opened t ht => exact absurd (hp.1 rfl) ht

lemma decodeKeys_token (h : keyNamed? name = some c) (s : Text) :
    decodeKeys (token name ++ s) = c :: decodeKeys s := by
  have hs : token name ++ s = '<' :: (name ++ '>' :: s) := by simp [token]
  rw [hs, decodeKeys_bracketed (keyNamed?_no_bracket h).2, keyOf, h]
  rfl

lemma decodeKeys_append_token (hp : ¬Closed p) (h : keyNamed? name = some c) (s : Text) :
    decodeKeys (p ++ (token name ++ s)) = decodeKeys p ++ (token name ++ decodeKeys s) := by
  induction p using bracketInduction with
  | nil => exact absurd trivial hp
  | plain c t hc ih =>
    have ht : ¬Closed t := fun ht => hp ⟨fun hc' => absurd hc' hc, ht⟩
    rw [List.cons_append, decodeKeys_plain hc, decodeKeys_plain hc, ih ht]
    rfl
  | bracketed inner t hn ih =>
    have ht : ¬Closed t := fun ht => hp ⟨fun _ => by simp, (closed_behind _ t).mpr ht⟩
    rw [List.cons_append, List.append_assoc, List.cons_append, decodeKeys_bracketed hn,
      decodeKeys_bracketed hn, ih ht, List.append_assoc]
  | opened t ht =>
    have hlong : '>' ∉ t ++ '<' :: name := by
      simp [ht, (keyNamed?_no_bracket h).2]
    have hnone : keyNamed? (t ++ '<' :: name) = none := by
      by_contra hsome
      obtain ⟨d, hd⟩ := Option.ne_none_iff_exists'.mp hsome
      exact (keyNamed?_no_bracket hd).1 (by simp)
    have hs : '<' :: t ++ (token name ++ s) = '<' :: ((t ++ '<' :: name) ++ '>' :: s) := by
      simp [token]
    rw [hs, decodeKeys_bracketed hlong, decodeKeys_open ht, keyOf, hnone]
    simp [token]

lemma decodeKeys_encodeKeys (keys : Text) : decodeKeys (encodeKeys keys) = keys := by
  induction keys with
  | nil => exact decodeKeys_nil
  | cons c keys ih =>
    rw [encodeKeys] at ih ⊢
    rw [List.flatMap_cons]
    split
    · rename_i hc
      have hlt : keyNamed? ['l', 't'] = some '<' := by decide
      rw [decodeKeys_token hlt, ih, hc]
    · rename_i hc
      rw [List.singleton_append, decodeKeys_plain hc, ih]

/-- The name of a key becomes the key where no bracket is open, and else is kept as it stands. -/
theorem decodeKeys_around (h : keyNamed? name = some c) (p s keys : Text) :
    decodeKeys (p ++ (token name ++ s)) =
        decodeKeys p ++ ((if Closed p then [c] else token name) ++ decodeKeys s) ∧
      (decodeKeys (p ++ (token name ++ s)) = decodeKeys p ++ ([c] ++ decodeKeys s) ↔ Closed p) ∧
      decodeKeys (encodeKeys keys) = keys := by
  have hread : decodeKeys (p ++ (token name ++ s)) =
      decodeKeys p ++ ((if Closed p then [c] else token name) ++ decodeKeys s) := by
    split
    · rename_i hp
      rw [decodeKeys_append hp, decodeKeys_token h]
      rfl
    · rename_i hp
      exact decodeKeys_append_token hp h s
  refine ⟨hread, ?_, decodeKeys_encodeKeys keys⟩
  rw [hread, List.append_cancel_left_eq, List.append_cancel_right_eq]
  constructor
  · intro he
    by_contra hp
    rw [if_neg hp] at he
    simpa [token] using congrArg List.length he
  · intro hp
    rw [if_pos hp]

theorem sample_decodeKeys_around :
    keyNamed? "EsC".toList = some '\x1b' ∧
      decodeKeys ("a < b > c".toList ++ (token "EsC".toList ++ "d<".toList)) =
        decodeKeys "a < b > c".toList ++ (['\x1b'] ++ decodeKeys "d<".toList) ∧
      decodeKeys ("a < b".toList ++ (token "EsC".toList ++ "d<".toList)) =
        decodeKeys "a < b".toList ++ (token "EsC".toList ++ decodeKeys "d<".toList) ∧
      decodeKeys (encodeKeys "<a><".toList) = "<a><".toList := by
  have h : keyNamed? "EsC".toList = some '\x1b' := by decide
  have hopen : ¬Closed "a < b".toList := by decide
  refine ⟨h, ?_, ?_, ?_⟩
  · exact (decodeKeys_around h _ _ []).2.1.mpr (by decide)
  · simpa only [if_neg hopen] using (decodeKeys_around h "a < b".toList "d<".toList []).1
  · exact (decodeKeys_around h [] [] _).2.2

end ModalEdit.Script
