import Mathlib.Tactic.Common
import ModalEdit.Toml.Token
import ModalEdit.Toml.Writer

namespace ModalEdit.Toml

lemma hexChar?_hexUpper : ∀ n < 128, (hexUpper n).length = 4 ∧
    hexChar? (hexUpper n) = some (Char.ofNat n) := by
  decide +kernel

def Escapes (e : Text) (c : Char) : Prop := ∀ r, escape? (e ++ r) = some (c, r)

lemma escapes_hexUpper {c : Char} (h : c.toNat < 128) : Escapes ('u' :: hexUpper c.toNat) c := by
  intro r
  obtain ⟨hl, hc⟩ := hexChar?_hexUpper c.toNat h
  generalize hexUpper c.toNat = ds at hl hc
  match ds, hl with
  | [x, y, z, w], _ => simp [escape?, hc]

lemma eq_newline_of_isControl {c : Char} (he : isEscapedControl c = false)
    (hc : isControl c = true) : c = '\n' := by
  simp [isEscapedControl, isControl] at he hc
  grind

inductive Shows : Text → Char → Prop
  | escaped {e : Text} {c : Char} (h : Escapes e c) : Shows ('\\' :: e) c
  | plain {c : Char} (hq : c ≠ '"') (hb : c ≠ '\\') (hc : isControl c = true → c = '\n') :
      Shows [c] c

lemma shows_quote : Shows ['\\', '"'] '"' := .escaped fun _ => rfl

lemma shows_newline : Shows ['\\', 'n'] '\n' := .escaped fun _ => rfl

lemma escapeBasic_shows {c : Char} (hq : c ≠ '"') : Shows (escapeBasic c) c := by
  simp only [escapeBasic]
  split
  · exact .escaped fun _ => rfl
  · exact .escaped fun _ => rfl
  · exact .escaped fun _ => rfl
  · exact .escaped fun _ => rfl
  · exact .escaped fun _ => rfl
  · rename_i hb
    split
    · rename_i hc
      refine .escaped (escapes_hexUpper ?_)
      simp [isEscapedControl] at hc
      omega
    · rename_i hc
      exact .plain hq hb (eq_newline_of_isControl (Bool.eq_false_iff.mpr hc))

lemma Shows.head {w : Text} {c : Char} (hw : Shows w c) :
    ∃ d v, w = d :: v ∧ d ≠ '"' ∧ (isControl d = true → c = '\n') := by
  cases hw with
  | escaped => exact ⟨_, _, rfl, nofun, nofun⟩
  | plain hq hb hc => exact ⟨_, _, rfl, hq, hc⟩

lemma basicBody_cons (c : Char) (t : Text) :
    ∃ w, basicBody (c :: t) = w ++ basicBody t ∧ Shows w c ∧ w ≠ ['\n'] := by
  rw [basicBody]
  split_ifs with hq hn
  · subst hq
    exact ⟨_, rfl, shows_quote, nofun⟩
  · subst hn
    exact ⟨_, rfl, shows_newline, nofun⟩
  · refine ⟨_, rfl, escapeBasic_shows hq, fun he => hn ?_⟩
    have hs := escapeBasic_shows hq
    rw [he] at hs
    cases hs
    rfl

lemma longBasicBody_cons (run : Nat) {c : Char} (hq : c ≠ '"') (t : Text) :
    ∃ w, longBasicBody run (c :: t) = w ++ longBasicBody 0 t ∧ Shows w c := by
  rw [longBasicBody, if_neg hq]
  split_ifs with hn
  · subst hn
    exact ⟨_, rfl, .plain hq nofun fun _ => rfl⟩
  · exact ⟨_, rfl, escapeBasic_shows hq⟩

def ahead (s : Text) (x : Option (Text × Text)) : Option (Text × Text) :=
  x.map fun (t, r) => (s ++ t, r)

@[simp] lemma ahead_some (s t r : Text) : ahead s (some (t, r)) = some (s ++ t, r) := rfl

@[simp] lemma ahead_nil (x : Option (Text × Text)) : ahead [] x = x := by
  cases x <;> rfl

lemma ahead_ahead (s t : Text) (x : Option (Text × Text)) :
    ahead s (ahead t x) = ahead (s ++ t) x := by
  cases x <;> simp [ahead]

lemma scanBasic_shown {w : Text} {c : Char} (hw : Shows w c) (hn : w ≠ ['\n']) (r : Text) :
    scanBasic (w ++ r) = ahead [c] (scanBasic r) := by
  cases hw with
  | escaped he =>
    rw [List.cons_append, scanBasic]
    split <;> rename_i h <;> cases (he r).symm.trans h
    rfl
  | plain hq hb hc =>
    have hp : isControl c = false := by simpa using fun h => hn (congrArg (fun c => [c]) (hc h))
    rw [List.singleton_append, scanBasic.eq_def]
    split <;> rename_i h <;> cases h
    · contradiction
    · contradiction
    · simp [hp, ahead]

lemma scanBasic_basicBody (t r : Text) : scanBasic (basicBody t ++ '"' :: r) = some (t, r) := by
  induction t with
  | nil => rw [basicBody, List.nil_append, scanBasic]
  | cons c t ih =>
    obtain ⟨w, hb, hw, hn⟩ := basicBody_cons c t
    rw [hb, List.append_assoc, scanBasic_shown hw hn, ih, ahead_some, List.singleton_append]

lemma scanLiteral_append {t : Text} (ht : ∀ c ∈ t, c ≠ '\'' ∧ isControl c = false) (r : Text) :
    scanLiteral (t ++ '\'' :: r) = some (t, r) := by
  induction t with
  | nil => rw [List.nil_append, scanLiteral]
  | cons c t ih =>
    obtain ⟨⟨hq, hc⟩, ht⟩ := List.forall_mem_cons.mp ht
    rw [List.cons_append, scanLiteral.eq_def]
    split <;> rename_i h <;> cases h
    · contradiction
    · simp [hc, ih ht]

structure Closes (q : Char) (scan : Text → Option (Text × Text)) : Prop where
  mark {r : Text} (hr : ¬[q, q] <+: r) : scan (q :: r) = ahead [q] (scan r)
  close {n : Nat} (hn : n ≤ 2) {r : Text} (hr : ∀ r', r ≠ q :: r') :
    scan (List.replicate n q ++ q :: q :: q :: r) = some (List.replicate n q, r)

lemma Closes.marks {q : Char} {scan : Text → Option (Text × Text)} (h : Closes q scan) {n : Nat}
    (hn : n ≤ 2) {c : Char} (hc : c ≠ q) (r : Text) :
    scan (List.replicate n q ++ c :: r) = ahead (List.replicate n q) (scan (c :: r)) := by
  induction n with
  | zero => rw [List.replicate_zero, List.nil_append, ahead_nil]
  | succ n ih =>
    have hq : ¬[q, q] <+: List.replicate n q ++ c :: r := by
      match n, hn with
      | 0, _ => simpa [List.cons_prefix_cons] using fun h => absurd h.symm hc
      | 1, _ => simpa [List.cons_prefix_cons] using fun h => absurd h.symm hc
    rw [List.replicate_succ, List.cons_append, h.mark hq, ih (by omega), ahead_ahead]
    rfl

lemma scanLongBasic_shown {w : Text} {c : Char} (hw : Shows w c) (r : Text) :
    scanLongBasic (w ++ r) = ahead [c] (scanLongBasic r) := by
  cases hw with
  | escaped he =>
    rw [List.cons_append, scanLongBasic]
    split
    · rename_i h
      cases (he r).symm.trans h
      rfl
    · rename_i h _
      cases (he r).symm.trans h
    · rename_i h _
      cases (he r).symm.trans h
  | plain hq hb hc =>
    have hr : c ≠ '\r' := by
      rintro rfl
      cases hc rfl
    rw [List.singleton_append, scanLongBasic.eq_def]
    split <;> rename_i h <;> cases h
    · contradiction
    · contradiction
    · contradiction
    · contradiction
    · contradiction
    · have hn : ¬(isControl c && c != '\n') = true := by simpa using hc
      simp [hn, ahead]

lemma scanLongBasic_closes : Closes '"' scanLongBasic where
  mark {r} hr := by
    rw [scanLongBasic.eq_def]
    split <;> rename_i h <;> cases h
    · exact absurd ⟨_, rfl⟩ hr
    · exact absurd ⟨_, rfl⟩ hr
    · exact absurd ⟨_, rfl⟩ hr
    · simp [isControl, ahead]
  close {n} hn {r} hr := by
    obtain rfl | rfl | rfl : n = 0 ∨ n = 1 ∨ n = 2 := by omega
    · simp [scanLongBasic, hr]
    · simp [scanLongBasic]
    · simp [scanLongBasic]

lemma scanLongBasic_run {n : Nat} (hn : n ≤ 2) {w : Text} {c : Char} (hw : Shows w c)
    {x t r : Text} (h : scanLongBasic x = some (t, r)) :
    scanLongBasic (List.replicate n '"' ++ (w ++ x)) =
      some (List.replicate n '"' ++ c :: t, r) := by
  obtain ⟨d, v, hd, hq, -⟩ := hw.head
  have hs := scanLongBasic_shown hw x
  rw [h, ahead_some] at hs
  rw [hd, List.cons_append, scanLongBasic_closes.marks hn hq, ← List.cons_append, ← hd, hs]
  rfl

lemma scanLongBasic_longBasicBody {r : Text} (hr : ∀ r', r ≠ '"' :: r') (t : Text) (run : Nat)
    (hrun : run ≤ 2) :
    scanLongBasic (List.replicate run '"' ++ (longBasicBody run t ++ '"' :: '"' :: '"' :: r)) =
      some (List.replicate run '"' ++ t, r) := by
  induction t generalizing run with
  | nil => rw [longBasicBody, List.nil_append, scanLongBasic_closes.close hrun hr, List.append_nil]
  | cons c t ih =>
    have h0 := ih 0 (by omega)
    rw [List.replicate_zero, List.nil_append, List.nil_append] at h0
    by_cases hq : c = '"'
    · subst hq
      rw [longBasicBody, if_pos rfl]
      split
      · -- the mark joins the run
        have h1 := ih (run + 1) (by omega)
        rw [List.replicate_succ'] at h1
        simpa using h1
      · exact scanLongBasic_run hrun shows_quote h0
    · obtain ⟨w, hb, hw⟩ := longBasicBody_cons run hq t
      rw [hb, List.append_assoc]
      exact scanLongBasic_run hrun hw h0

lemma scanLongLiteral_plain {c : Char} (hq : c ≠ '\'') (hc : isControl c = true → c = '\n')
    (r : Text) : scanLongLiteral (c :: r) = ahead [c] (scanLongLiteral r) := by
  have hr : c ≠ '\r' := by
    rintro rfl
    cases hc rfl
  have hn : ¬(isControl c && c != '\n') = true := by simpa using hc
  rw [scanLongLiteral.eq_def]
  split <;> rename_i h <;> cases h
  · contradiction
  · contradiction
  · contradiction
  · contradiction
  · simp [hn, ahead]

lemma scanLongLiteral_closes : Closes '\'' scanLongLiteral where
  mark {r} hr := by
    rw [scanLongLiteral.eq_def]
    split <;> rename_i h <;> cases h
    · exact absurd ⟨_, rfl⟩ hr
    · exact absurd ⟨_, rfl⟩ hr
    · exact absurd ⟨_, rfl⟩ hr
    · simp [isControl, ahead]
  close {n} hn {r} hr := by
    obtain rfl | rfl | rfl : n = 0 ∨ n = 1 ∨ n = 2 := by omega
    · simp [scanLongLiteral, hr]
    · simp [scanLongLiteral]
    · simp [scanLongLiteral]

lemma scanLongLiteral_append {r : Text} (hr : ∀ r', r ≠ '\'' :: r') {t : Text} {n : Nat}
    (ht : ∀ c ∈ t, isControl c = true → c = '\n') (hn : longestRun '\'' n t ≤ 2) :
    scanLongLiteral (List.replicate n '\'' ++ (t ++ '\'' :: '\'' :: '\'' :: r)) =
      some (List.replicate n '\'' ++ t, r) := by
  induction t generalizing n with
  | nil =>
    rw [longestRun] at hn
    rw [List.nil_append, scanLongLiteral_closes.close hn hr, List.append_nil]
  | cons c t ih =>
    obtain ⟨hc, ht⟩ := List.forall_mem_cons.mp ht
    rw [longestRun] at hn
    split at hn
    · rename_i hq
      have h1 := ih ht hn
      rw [List.replicate_succ'] at h1
      simpa [hq] using h1
    · rename_i hq
      have h0 := ih ht (Nat.le_trans (Nat.le_max_right _ _) hn)
      rw [List.replicate_zero, List.nil_append, List.nil_append] at h0
      rw [List.cons_append, scanLongLiteral_closes.marks (Nat.le_trans (Nat.le_max_left _ _) hn) hq,
        scanLongLiteral_plain hq hc, h0]
      rfl

lemma longestRun_le (c : Char) (n : Nat) (t : Text) : n ≤ longestRun c n t := by
  induction t generalizing n with
  | nil => exact Nat.le_refl n
  | cons d t ih =>
    rw [longestRun]
    split
    · exact Nat.le_trans (Nat.le_succ n) (ih _)
    · exact Nat.le_max_left _ _

lemma not_mem_of_longestRun {c : Char} {n : Nat} {t : Text} (h : longestRun c n t = 0) :
    c ∉ t := by
  induction t generalizing n with
  | nil => exact List.not_mem_nil
  | cons d t ih =>
    rw [longestRun] at h
    split at h
    · have := longestRun_le c (n + 1) t
      omega
    · rename_i hd
      rw [List.mem_cons, not_or]
      exact ⟨fun hc => hd hc.symm, ih (Nat.max_eq_zero_iff.mp h).2⟩

def Quoted (w t : Text) (long : Bool) : Prop :=
  ∃ q x, w = q :: x ∧ (q = '"' ∨ q = '\'') ∧
    ∀ r, (∀ r', r ≠ q :: r') → scanString q (x ++ r) = some (.string t long, r)

lemma scanString_basic {x : Text} (hx : ¬['"', '"'] <+: x) :
    scanString '"' x = (scanBasic x).map fun p => (.string p.1 false, p.2) := by
  rw [scanString.eq_def, if_pos rfl]
  split
  · exact absurd ⟨_, rfl⟩ hx
  · rfl

lemma scanString_literal {x : Text} (hx : ¬['\'', '\''] <+: x) :
    scanString '\'' x = (scanLiteral x).map fun p => (.string p.1 false, p.2) := by
  rw [scanString.eq_def, if_neg (by decide)]
  split
  · exact absurd ⟨_, rfl⟩ hx
  · rfl

lemma quoted_basic (t : Text) : Quoted ('"' :: basicBody t ++ ['"']) t false := by
  refine ⟨'"', basicBody t ++ ['"'], rfl, .inl rfl, fun r hr => ?_⟩
  rw [List.append_assoc, List.singleton_append]
  have hx : ¬['"', '"'] <+: basicBody t ++ '"' :: r := by
    rintro ⟨r', h⟩
    cases t with
    | nil =>
      cases h
      exact hr r' rfl
    | cons c t =>
      obtain ⟨w, hb, hw, -⟩ := basicBody_cons c t
      obtain ⟨d, v, rfl, hq, -⟩ := hw.head
      rw [hb] at h
      exact hq (List.cons.inj h).1.symm
  rw [scanString_basic hx, scanBasic_basicBody]
  rfl

lemma quoted_literal {t : Text} (ht : ∀ c ∈ t, c ≠ '\'' ∧ isControl c = false) :
    Quoted ('\'' :: t ++ ['\'']) t false := by
  refine ⟨'\'', t ++ ['\''], rfl, .inr rfl, fun r hr => ?_⟩
  rw [List.append_assoc, List.singleton_append]
  have hx : ¬['\'', '\''] <+: t ++ '\'' :: r := by
    rintro ⟨r', h⟩
    cases t with
    | nil =>
      cases h
      exact hr r' rfl
    | cons c t => exact (ht c List.mem_cons_self).1 (List.cons.inj h).1.symm
  rw [scanString_literal hx, scanLiteral_append ht]
  rfl

lemma dropFirstLine_plain {t : Text} (ht : ∀ c t', t = c :: t' → isControl c = false) :
    dropFirstLine t = t := by
  rw [dropFirstLine.eq_def]
  split
  · cases ht _ _ rfl
  · cases ht _ _ rfl
  · rfl

def lead (t : Text) : Text := if t.contains '\n' then ['\n'] else []

lemma dropFirstLine_lead {t x : Text}
    (hx : '\n' ∉ t → ∀ c x', x = c :: x' → isControl c = false) :
    dropFirstLine (lead t ++ x) = x := by
  rw [lead]
  split
  · rfl
  · rename_i hn
    exact dropFirstLine_plain (hx (by simpa using hn))

lemma longBasicBody_head {t : Text} (hn : '\n' ∉ t) (r : Text) :
    ∀ c x, longBasicBody 0 t ++ '"' :: r = c :: x → isControl c = false := by
  intro c x hx
  cases t with
  | nil =>
    cases hx
    rfl
  | cons a t =>
    by_cases hq : a = '"'
    · subst hq
      cases hx
      rfl
    · obtain ⟨w, hb, hw⟩ := longBasicBody_cons 0 hq t
      obtain ⟨d, v, rfl, -, hc⟩ := hw.head
      rw [hb] at hx
      cases hx
      exact Bool.eq_false_iff.mpr fun h => hn (hc h ▸ List.mem_cons_self)

lemma quoted_longBasic (t : Text) :
    Quoted (['"', '"', '"'] ++ lead t ++ longBasicBody 0 t ++ ['"', '"', '"']) t true := by
  refine ⟨'"', '"' :: '"' :: (lead t ++ (longBasicBody 0 t ++ ['"', '"', '"'])), by simp, .inl rfl,
    fun r hr => ?_⟩
  have hs := scanLongBasic_longBasicBody hr t 0 (by omega)
  have hl : dropFirstLine (lead t ++ (longBasicBody 0 t ++ '"' :: '"' :: '"' :: r)) =
      longBasicBody 0 t ++ '"' :: '"' :: '"' :: r :=
    dropFirstLine_lead fun hn => longBasicBody_head hn _
  rw [List.replicate_zero, List.nil_append, List.nil_append] at hs
  simp [scanString, hl, hs]

lemma quoted_longLiteral {t : Text} (ht : ∀ c ∈ t, isControl c = true → c = '\n')
    (hn : longestRun '\'' 0 t ≤ 2) :
    Quoted (['\'', '\'', '\''] ++ lead t ++ t ++ ['\'', '\'', '\'']) t true := by
  refine ⟨'\'', '\'' :: '\'' :: (lead t ++ (t ++ ['\'', '\'', '\''])), by simp, .inr rfl,
    fun r hr => ?_⟩
  have hs := scanLongLiteral_append hr ht hn
  have hl : dropFirstLine (lead t ++ (t ++ '\'' :: '\'' :: '\'' :: r)) =
      t ++ '\'' :: '\'' :: '\'' :: r := by
    refine dropFirstLine_lead fun hn c x hx => ?_
    cases t with
    | nil =>
      cases hx
      rfl
    | cons a t =>
      cases hx
      exact Bool.eq_false_iff.mpr fun h => hn (ht _ List.mem_cons_self h ▸ List.mem_cons_self)
  rw [List.replicate_zero, List.nil_append, List.nil_append] at hs
  simp [scanString, hl, hs]

lemma Shape.form_literal {s : Shape} (h : s.form = .literal) :
    s.controls = false ∧ s.apostrophes = 0 ∧ s.newline = false := by
  simp only [Shape.form] at h
  split_ifs at h
  rename_i hl
  simpa [and_assoc] using hl

lemma Shape.form_longLiteral {s : Shape} (h : s.form = .longLiteral) :
    s.controls = false ∧ s.apostrophes ≤ 2 := by
  simp only [Shape.form] at h
  split_ifs at h
  rename_i hl
  simpa using hl

lemma isControl_of_shape {t : Text} (h : (Shape.of t).controls = false) {c : Char} (hc : c ∈ t)
    (hx : isControl c = true) : c = '\n' :=
  eq_newline_of_isControl (Bool.eq_false_iff.mpr (List.any_eq_false.mp h c hc)) hx

lemma literal_of_shape {t : Text} (h : (Shape.of t).form = .literal) :
    ∀ c ∈ t, c ≠ '\'' ∧ isControl c = false := by
  obtain ⟨hc, ha, hn⟩ := Shape.form_literal h
  intro c hm
  have hn : '\n' ∉ t := by simpa [Shape.of] using hn
  refine ⟨fun hq => not_mem_of_longestRun ha (hq ▸ hm), Bool.eq_false_iff.mpr fun hx => hn ?_⟩
  exact isControl_of_shape hc hm hx ▸ hm

theorem writeString_quoted (t : Text) : ∃ long, Quoted (writeString t) t long := by
  simp only [writeString]
  split
  · exact ⟨_, quoted_basic t⟩
  · rename_i hf
    exact ⟨_, quoted_literal (literal_of_shape hf)⟩
  · exact ⟨_, quoted_longBasic t⟩
  · rename_i hf
    obtain ⟨hc, ha⟩ := Shape.form_longLiteral hf
    exact ⟨_, quoted_longLiteral (fun c => isControl_of_shape hc) ha⟩

theorem writeKey_quoted {t : Text} (h : isBareKey t = false) : Quoted (writeKey t) t false := by
  rw [writeKey, if_neg (by simp [h])]
  dsimp only
  split
  · rename_i hf
    exact quoted_literal (literal_of_shape hf)
  · exact quoted_basic t

end ModalEdit.Toml
