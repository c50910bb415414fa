import ModalEdit.Unicode.Category

/-! Extended grapheme clusters: the break class of a character, and the rules that decide whether
a character continues the cluster before it. -/

namespace ModalEdit.Unicode

def otherGraphemeExtend : CodeSet := ⟨#[
  0x9BE, 0x9BF, 0x9D7, 0x9D8, 0xB3E, 0xB3F, 0xB57, 0xB58, 0xBBE, 0xBBF, 0xBD7, 0xBD8, 0xCC0, 0xCC1,
  0xCC2, 0xCC3, 0xCC7, 0xCC9, 0xCCA, 0xCCC, 0xCD5, 0xCD7, 0xD3E, 0xD3F, 0xD57, 0xD58, 0xDCF, 0xDD0,
  0xDDF, 0xDE0, 0x1715, 0x1716, 0x1734, 0x1735, 0x1B35, 0x1B36, 0x1B3B, 0x1B3C, 0x1B3D, 0x1B3E,
  0x1B43, 0x1B45, 0x1BAA, 0x1BAB, 0x1BF2, 0x1BF4, 0x200C, 0x200D, 0x302E, 0x3030, 0xA953, 0xA954,
  0xA9C0, 0xA9C1, 0xFF9E, 0xFFA0, 0x111C0, 0x111C1, 0x11235, 0x11236, 0x1133E, 0x1133F, 0x1134D,
  0x1134E, 0x11357, 0x11358, 0x114B0, 0x114B1, 0x114BD, 0x114BE, 0x115AF, 0x115B0, 0x116B6,
  0x116B7, 0x11930, 0x11931, 0x1193D, 0x1193E, 0x1D165, 0x1D166, 0x1D16E, 0x1D173, 0xE0020,
  0xE0080]⟩

def prepended : CodeSet := ⟨#[
  0x600, 0x606, 0x6DD, 0x6DE, 0x70F, 0x710, 0x890, 0x892, 0x8E2, 0x8E3, 0xD4E, 0xD4F, 0x110BD,
  0x110BE, 0x110CD, 0x110CE, 0x111C2, 0x111C4, 0x1193F, 0x11940, 0x11941, 0x11942, 0x11A3A,
  0x11A3B, 0x11A84, 0x11A8A, 0x11D46, 0x11D47, 0x11F02, 0x11F03]⟩

def detachedMarks : CodeSet := ⟨#[
  0x102B, 0x102D, 0x1038, 0x1039, 0x1062, 0x1065, 0x1067, 0x106E, 0x1083, 0x1084, 0x1087, 0x108D,
  0x108F, 0x1090, 0x109A, 0x109D, 0x1A61, 0x1A62, 0x1A63, 0x1A65, 0xAA7B, 0xAA7C, 0xAA7D, 0xAA7E,
  0x11720, 0x11722, 0x1612A, 0x1612D]⟩

def extendedPictographic : CodeSet := ⟨#[
  0xA9, 0xAA, 0xAE, 0xAF, 0x203C, 0x203D, 0x2049, 0x204A, 0x2122, 0x2123, 0x2139, 0x213A, 0x2194,
  0x219A, 0x21A9, 0x21AB, 0x231A, 0x231C, 0x2328, 0x2329, 0x2388, 0x2389, 0x23CF, 0x23D0, 0x23E9,
  0x23F4, 0x23F8, 0x23FB, 0x24C2, 0x24C3, 0x25AA, 0x25AC, 0x25B6, 0x25B7, 0x25C0, 0x25C1, 0x25FB,
  0x25FF, 0x2600, 0x2606, 0x2607, 0x2613, 0x2614, 0x2686, 0x2690, 0x2706, 0x2708, 0x2713, 0x2714,
  0x2715, 0x2716, 0x2717, 0x271D, 0x271E, 0x2721, 0x2722, 0x2728, 0x2729, 0x2733, 0x2735, 0x2744,
  0x2745, 0x2747, 0x2748, 0x274C, 0x274D, 0x274E, 0x274F, 0x2753, 0x2756, 0x2757, 0x2758, 0x2763,
  0x2768, 0x2795, 0x2798, 0x27A1, 0x27A2, 0x27B0, 0x27B1, 0x27BF, 0x27C0, 0x2934, 0x2936, 0x2B05,
  0x2B08, 0x2B1B, 0x2B1D, 0x2B50, 0x2B51, 0x2B55, 0x2B56, 0x3030, 0x3031, 0x303D, 0x303E, 0x3297,
  0x3298, 0x3299, 0x329A, 0x1F000, 0x1F100, 0x1F10D, 0x1F110, 0x1F12F, 0x1F130, 0x1F16C, 0x1F172,
  0x1F17E, 0x1F180, 0x1F18E, 0x1F18F, 0x1F191, 0x1F19B, 0x1F1AD, 0x1F1E6, 0x1F201, 0x1F210,
  0x1F21A, 0x1F21B, 0x1F22F, 0x1F230, 0x1F232, 0x1F23B, 0x1F23C, 0x1F240, 0x1F249, 0x1F3FB,
  0x1F400, 0x1F53E, 0x1F546, 0x1F650, 0x1F680, 0x1F700, 0x1F774, 0x1F780, 0x1F7D5, 0x1F800,
  0x1F80C, 0x1F810, 0x1F848, 0x1F850, 0x1F85A, 0x1F860, 0x1F888, 0x1F890, 0x1F8AE, 0x1F900,
  0x1F90C, 0x1F93B, 0x1F93C, 0x1F946, 0x1F947, 0x1FB00, 0x1FC00, 0x1FFFE]⟩

def conjunctConsonant : CodeSet := ⟨#[
  0x915, 0x93A, 0x958, 0x960, 0x978, 0x980, 0x995, 0x9A9, 0x9AA, 0x9B1, 0x9B2, 0x9B3, 0x9B6, 0x9BA,
  0x9DC, 0x9DE, 0x9DF, 0x9E0, 0x9F0, 0x9F2, 0xA95, 0xAA9, 0xAAA, 0xAB1, 0xAB2, 0xAB4, 0xAB5, 0xABA,
  0xAF9, 0xAFA, 0xB15, 0xB29, 0xB2A, 0xB31, 0xB32, 0xB34, 0xB35, 0xB3A, 0xB5C, 0xB5E, 0xB5F, 0xB60,
  0xB71, 0xB72, 0xC15, 0xC29, 0xC2A, 0xC3A, 0xC58, 0xC5B, 0xD15, 0xD3B]⟩

def isConjunctLinker (c : Char) : Bool :=
  let n := c.toNat
  n == 0x94D || n == 0x9CD || n == 0xACD || n == 0xB4D || n == 0xC4D || n == 0xD4D

def isGraphemeExtend (c : Char) : Bool :=
  match Category.ofChar c with
  | .nonspacingMark | .enclosingMark => true
  | _ => otherGraphemeExtend.contains c

def isEmojiModifier (c : Char) : Bool :=
  0x1F3FB ≤ c.toNat && c.toNat ≤ 0x1F3FF

def isRegionalIndicator (c : Char) : Bool :=
  0x1F1E6 ≤ c.toNat && c.toNat ≤ 0x1F1FF

def zeroWidthJoiner : Char := '\u200d'

def isReservedIgnorable (c : Char) : Bool :=
  let n := c.toNat
  n == 0x2065 || (0xFFF0 ≤ n && n ≤ 0xFFF8) || (0xE0000 ≤ n && n ≤ 0xE0FFF)

inductive ClusterBreak where
  | other | carriageReturn | lineFeed | control | extend | joiner | regionalIndicator
  | prepend | spacing | leading | vowel | trailing | leadingVowel | syllable
  deriving DecidableEq, Repr

namespace ClusterBreak

def hangul? (n : Nat) : Option ClusterBreak :=
  if (0x1100 ≤ n && n ≤ 0x115F) || (0xA960 ≤ n && n ≤ 0xA97C) then some leading
  else if (0x1160 ≤ n && n ≤ 0x11A7) || (0xD7B0 ≤ n && n ≤ 0xD7C6) then some vowel
  else if (0x11A8 ≤ n && n ≤ 0x11FF) || (0xD7CB ≤ n && n ≤ 0xD7FB) then some trailing
  else if 0xAC00 ≤ n && n ≤ 0xD7A3 then
    some (if (n - 0xAC00) % 28 == 0 then leadingVowel else syllable)
  else none

def ofChar (c : Char) : ClusterBreak :=
  let n := c.toNat
  if n == 13 then carriageReturn
  else if n == 10 then lineFeed
  else if n < 32 || n == 127 then control
  else if n < 128 then other
  else if c == zeroWidthJoiner then joiner
  else if isRegionalIndicator c then regionalIndicator
  else match hangul? n with
    | some h => h
    | none =>
      if prepended.contains c then prepend
      else if isGraphemeExtend c || isEmojiModifier c then extend
      else match Category.ofChar c with
        | .control | .format | .lineSeparator | .paragraphSeparator | .surrogate => control
        | .spacingMark => if detachedMarks.contains c then other else spacing
        | _ =>
          if isReservedIgnorable c then control
          else if n == 0xE33 || n == 0xEB3 then spacing else other

def breaksAround : ClusterBreak → Bool
  | carriageReturn | lineFeed | control => true
  | _ => false

end ClusterBreak

inductive PictographState where
  | none | pictograph | joined
  deriving DecidableEq, Repr

inductive ConjunctState where
  | none | consonant | linked
  deriving DecidableEq, Repr

structure ClusterState where
  last : ClusterBreak
  oddIndicators : Bool
  pictograph : PictographState
  conjunct : ConjunctState
  deriving DecidableEq, Repr

namespace ClusterState

def isPictographic (c : Char) : Bool :=
  128 ≤ c.toNat && extendedPictographic.contains c

def isConsonant (c : Char) : Bool :=
  128 ≤ c.toNat && conjunctConsonant.contains c

def start (c : Char) : ClusterState where
  last := .ofChar c
  oddIndicators := isRegionalIndicator c
  pictograph := if isPictographic c then .pictograph else .none
  conjunct := if isConsonant c then .consonant else .none

def next (s : ClusterState) (c : Char) : ClusterState :=
  let k := ClusterBreak.ofChar c
  { last := k
    oddIndicators := isRegionalIndicator c && !s.oddIndicators
    pictograph :=
      if isPictographic c then .pictograph
      else match s.pictograph, k with
        | .pictograph, .extend => .pictograph
        | .pictograph, .joiner => .joined
        | _, _ => .none
    conjunct :=
      if isConsonant c then .consonant
      else if s.conjunct == .none then .none
      else if isConjunctLinker c then .linked
      else if (k == .extend && c != '\u200c') || k == .joiner then s.conjunct
      else .none }

def joins (s : ClusterState) (c : Char) : Bool :=
  match s.last, ClusterBreak.ofChar c with
  | .carriageReturn, .lineFeed => true
  | a, b =>
    if a.breaksAround || b.breaksAround then false
    else match a, b with
      | .leading, .leading | .leading, .vowel | .leading, .leadingVowel | .leading, .syllable => true
      | .leadingVowel, .vowel | .leadingVowel, .trailing | .vowel, .vowel | .vowel, .trailing => true
      | .syllable, .trailing | .trailing, .trailing => true
      | _, .extend | _, .joiner | _, .spacing => true
      | .prepend, _ => true
      | _, _ =>
        (s.conjunct == .linked && isConsonant c) ||
          (s.pictograph == .joined && isPictographic c) ||
          (s.oddIndicators && isRegionalIndicator c)

end ClusterState

def clustersAfter (s : ClusterState) : List Char → List Char × List (List Char)
  | [] => ([], [])
  | c :: rest =>
    if s.joins c then
      let (h, t) := clustersAfter (s.next c) rest
      (c :: h, t)
    else
      let (h, t) := clustersAfter (.start c) rest
      ([], (c :: h) :: t)

def clusters : List Char → List (List Char)
  | [] => []
  | c :: rest =>
    let (h, t) := clustersAfter (.start c) rest
    (c :: h) :: t

theorem clustersAfter_flatten (s : ClusterState) (t : List Char) :
    (clustersAfter s t).1 ++ (clustersAfter s t).2.flatten = t := by
  induction t generalizing s with
  | nil => rfl
  | cons c rest ih =>
    rw [clustersAfter]
    split
    · simpa using ih (s.next c)
    · simpa using ih (.start c)

theorem clusters_flatten (t : List Char) : (clusters t).flatten = t := by
  cases t with
  | nil => rfl
  | cons c rest => simpa [clusters] using clustersAfter_flatten (.start c) rest

theorem clustersAfter_ne_nil (s : ClusterState) (t : List Char) :
    ∀ g ∈ (clustersAfter s t).2, g ≠ [] := by
  induction t generalizing s with
  | nil => simp [clustersAfter]
  | cons c rest ih =>
    rw [clustersAfter]
    split
    · exact ih (s.next c)
    · intro g hg
      rcases List.mem_cons.1 hg with rfl | hg
      · simp
      · exact ih (.start c) g hg

theorem clusters_ne_nil (t : List Char) : ∀ g ∈ clusters t, g ≠ [] := by
  cases t with
  | nil => simp [clusters]
  | cons c rest =>
    intro g hg
    rcases List.mem_cons.1 hg with rfl | hg
    · simp
    · exact clustersAfter_ne_nil (.start c) rest g hg

end ModalEdit.Unicode
