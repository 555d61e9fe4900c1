import EvalHub.Services.ModelService

/-!
# `EvalHub.Proofs.Pattern`: the name pattern of a runtime model

`_load_runtime_models` matches each candidate name with
`re.match(r'EVAL_HUB_MODEL_(.+)_URL', name)`. `re.match` anchors at the start only,
`.+` is greedy, and `.` matches anything but a newline. `matchModelUrl` computes the
match the way the engine searches for it: after the prefix, `(.+)` first takes the whole
run of characters before the first newline and then gives back one character at a time
until `_URL` follows (`urlGroupEnd`).

`matchModelUrl_greedy` checks this against the pattern read declaratively. A group the
pattern admits (`IsGroup`) is a non-empty run with no newline between the prefix and a
following `_URL`. The match returns the longest such group, and fails exactly when there
is none.

`matchModelUrl_of_no_newline` is the case the scan meets in practice. A name with no
newline that starts with the prefix and ends with the suffix matches exactly when it is
at least 20 characters long, and its group is then the slice `seg`,
`name[15:len(name)-4]`.
-/

set_option autoImplicit false

namespace EvalHub.Proofs

open EvalHub.Python EvalHub.Services

/-! ### Where the group ends -/

@[simp] theorem url_data_length : "_URL".data.length = 4 := rfl

/-- The suffix the group must be followed by. -/
theorem isPrefixOf_url_of_short {l : List Char} (h : l.length < 4) :
    "_URL".data.isPrefixOf l = false := by
  rw [← Bool.not_eq_true, List.isPrefixOf_iff_prefix]
  exact fun hp => absurd hp.length_le (by rw [url_data_length]; omega)

/-- Candidate ends at which `_URL` does not follow are passed over. -/
theorem urlGroupEnd_skip (rest : List Char) (m : Nat) : ∀ n, m ≤ n →
    (∀ k, m < k → k ≤ n → "_URL".data.isPrefixOf (rest.drop k) = false) →
      urlGroupEnd rest n = urlGroupEnd rest m := by
  intro n
  induction n with
  | zero => intro h _; rw [Nat.le_zero.mp h]
  | succ n ih =>
    intro hmn hk
    rcases Nat.eq_or_lt_of_le hmn with rfl | hlt
    · rfl
    · rw [urlGroupEnd, hk (n + 1) hlt le_rfl, if_neg Bool.false_ne_true]
      exact ih (by omega) fun k h₁ h₂ => hk k h₁ (by omega)

/-- On a segment followed by `_URL`, the greedy group is the whole segment. -/
theorem urlGroupEnd_append_url (s : List Char) :
    urlGroupEnd (s ++ "_URL".data) (s.length + 4) = if s = [] then none else some s.length := by
  rw [urlGroupEnd_skip _ s.length _ (by omega) fun k hk _ => isPrefixOf_url_of_short
    (by rw [List.length_drop, List.length_append, url_data_length]; omega)]
  cases s with
  | nil => rfl
  | cons c s =>
    rw [List.length_cons, urlGroupEnd, ← List.length_cons c, List.drop_left, if_neg (List.cons_ne_nil c s)]
    rfl

/-- A suffix of fewer than five characters holds no non-empty group before `_URL`. -/
theorem urlGroupEnd_of_short {rest : List Char} (h : rest.length ≤ 4) (n : Nat) :
    urlGroupEnd rest n = none := by
  rw [urlGroupEnd_skip rest 0 n (Nat.zero_le n) fun k hk _ =>
    isPrefixOf_url_of_short (by rw [List.length_drop]; omega)]
  rfl

/-- The slice `name[15:len(name)-4]` between the prefix and the suffix. -/
def seg (envVar : String) : String :=
  ⟨(envVar.data.drop 15).take (envVar.length - 19)⟩

/-- A name with no newline that starts with `EVAL_HUB_MODEL_` and ends with `_URL`
matches the pattern exactly when it has at least 20 characters, and its group is then
the slice between the two. -/
theorem matchModelUrl_of_no_newline (envVar : String)
    (hp : startswith envVar "EVAL_HUB_MODEL_") (hs : endswith envVar "_URL")
    (hn : '\n' ∉ envVar.data) :
    matchModelUrl envVar = if 20 ≤ envVar.length then some (seg envVar) else none := by
  obtain ⟨l⟩ := envVar
  have hpre : "EVAL_HUB_MODEL_".data = l.take 15 :=
    List.prefix_iff_eq_take.mp (List.isPrefixOf_iff_prefix.mp hp)
  have hsuf : "_URL".data = l.drop (l.length - 4) :=
    List.suffix_iff_eq_drop.mp (List.isSuffixOf_iff_suffix.mp hs)
  have hlen : 15 ≤ l.length := by
    have h := congrArg List.length hpre
    rw [List.length_take] at h
    exact (show 15 = min 15 l.length from h) ▸ Nat.min_le_right 15 l.length
  have hrest : (l.drop 15).takeWhile (· ≠ '\n') = l.drop 15 :=
    List.takeWhile_eq_self_iff.mpr fun c hc => by
      have := List.mem_of_mem_drop hc
      simp only [ne_eq, decide_eq_true_eq]
      rintro rfl
      exact hn this
  rw [matchModelUrl, if_pos hp]
  show Option.map (fun k => (⟨(l.drop 15).take k⟩ : String))
      (urlGroupEnd (l.drop 15) ((l.drop 15).takeWhile (· ≠ '\n')).length) =
    if 20 ≤ l.length then some ⟨(l.drop 15).take (l.length - 19)⟩ else none
  rw [hrest]
  by_cases h20 : 20 ≤ l.length
  · set s := (l.drop 15).take (l.length - 19)
    have hsplit : l.drop 15 = s ++ "_URL".data := by
      rw [← List.take_append_drop (l.length - 19) (l.drop 15), List.drop_drop, hsuf]
      congr 2
      omega
    have hs_len : s.length = l.length - 19 := by
      rw [List.length_take, List.length_drop]; omega
    have hs_ne : s ≠ [] := fun h => by rw [h, List.length_nil] at hs_len; omega
    rw [hsplit, List.length_append, url_data_length, urlGroupEnd_append_url, if_neg hs_ne,
      if_pos h20, Option.map_some', List.take_left]
  · rw [urlGroupEnd_of_short (by rw [List.length_drop]; omega), if_neg h20]
    rfl

/-! ### The pattern read declaratively -/

/-- A group the pattern admits at the start of `name`: a non-empty run of characters
other than a newline, between the prefix `EVAL_HUB_MODEL_` and a following `_URL`. -/
def IsGroup (name : String) (g : List Char) : Prop :=
  g ≠ [] ∧ '\n' ∉ g ∧ "EVAL_HUB_MODEL_".data ++ g ++ "_URL".data <+: name.data

/-- An end `n + 1` that `_URL` does not follow extends a range of ends `_URL` does not
follow. -/
theorem noUrl_succ {rest : List Char} {m n : Nat}
    (hp : ¬ "_URL".data.isPrefixOf (rest.drop (n + 1)) = true)
    (h : ∀ k, m < k → k ≤ n → "_URL".data.isPrefixOf (rest.drop k) = false) :
    ∀ k, m < k → k ≤ n + 1 → "_URL".data.isPrefixOf (rest.drop k) = false := fun k h₁ h₂ => by
  rcases Nat.lt_or_ge n k with hlt | hle
  · rw [show k = n + 1 by omega]
    exact Bool.eq_false_iff.mpr hp
  · exact h k h₁ hle

/-- `urlGroupEnd rest n` is the largest end in `1 … n` that `_URL` follows. -/
theorem urlGroupEnd_eq_some_iff (rest : List Char) (n k : Nat) :
    urlGroupEnd rest n = some k ↔ 0 < k ∧ k ≤ n ∧ "_URL".data.isPrefixOf (rest.drop k) ∧
      ∀ k', k < k' → k' ≤ n → "_URL".data.isPrefixOf (rest.drop k') = false := by
  induction n with
  | zero => exact ⟨nofun, fun ⟨h₀, hk, _⟩ => absurd hk (by omega)⟩
  | succ n ih =>
    rw [urlGroupEnd]
    by_cases hp : "_URL".data.isPrefixOf (rest.drop (n + 1))
    · rw [if_pos hp, Option.some.injEq]
      constructor
      · rintro rfl
        exact ⟨n.succ_pos, le_rfl, hp, fun k' h₁ h₂ => absurd h₂ (by omega)⟩
      · rintro ⟨-, hk, -, hmax⟩
        by_contra hne
        have := hmax (n + 1) (by omega) le_rfl
        rw [hp] at this
        cases this
    · rw [if_neg hp, ih]
      constructor
      · rintro ⟨h₀, hk, hpk, hmax⟩
        exact ⟨h₀, by omega, hpk, noUrl_succ hp hmax⟩
      · rintro ⟨h₀, hk, hpk, hmax⟩
        have hne : k ≠ n + 1 := fun h => hp (h ▸ hpk)
        exact ⟨h₀, by omega, hpk, fun k' h₁ h₂ => hmax k' h₁ (by omega)⟩

/-- `urlGroupEnd rest n` fails exactly when `_URL` follows no end in `1 … n`. -/
theorem urlGroupEnd_eq_none_iff (rest : List Char) (n : Nat) :
    urlGroupEnd rest n = none ↔
      ∀ k, 0 < k → k ≤ n → "_URL".data.isPrefixOf (rest.drop k) = false := by
  induction n with
  | zero => exact iff_of_true rfl fun k h₀ hk => absurd hk (by omega)
  | succ n ih =>
    rw [urlGroupEnd]
    by_cases hp : "_URL".data.isPrefixOf (rest.drop (n + 1))
    · rw [if_pos hp]
      refine iff_of_false nofun fun h => ?_
      rw [h (n + 1) n.succ_pos le_rfl] at hp
      cases hp
    · rw [if_neg hp, ih]
      exact ⟨noUrl_succ hp, fun h k h₀ hk => h k h₀ (by omega)⟩

/-- A name with a group starts with the prefix. -/
theorem startswith_of_isGroup {name : String} {g : List Char} (h : IsGroup name g) :
    startswith name "EVAL_HUB_MODEL_" :=
  List.isPrefixOf_iff_prefix.mpr ((List.prefix_append _ _).trans
    ((List.prefix_append _ _).trans h.2.2))

/-- A name that starts with the prefix is the prefix followed by the rest. -/
theorem data_eq_prefix_append {name : String} (hp : startswith name "EVAL_HUB_MODEL_") :
    name.data = "EVAL_HUB_MODEL_".data ++ name.data.drop 15 := by
  obtain ⟨t, ht⟩ := List.isPrefixOf_iff_prefix.mp hp
  rw [← ht]
  rfl

/-- The groups of a name are the slices of the rest, after the prefix, that end at an end
`urlGroupEnd` tries and that `_URL` follows. -/
theorem isGroup_iff {name : String} (hp : startswith name "EVAL_HUB_MODEL_") (g : List Char) :
    IsGroup name g ↔ ∃ k, 0 < k ∧ k ≤ ((name.data.drop 15).takeWhile (· ≠ '\n')).length ∧
      "_URL".data.isPrefixOf ((name.data.drop 15).drop k) ∧ g = (name.data.drop 15).take k := by
  have hname := data_eq_prefix_append hp
  generalize name.data.drop 15 = rest at hname ⊢
  unfold IsGroup
  rw [hname, List.append_assoc, List.prefix_append_right_inj]
  constructor
  · rintro ⟨hne, hnl, t, rfl⟩
    have hkeep : ∀ c ∈ g, decide (c ≠ '\n') = true := fun c hc =>
      decide_eq_true fun h => hnl (h ▸ hc)
    refine ⟨g.length, List.length_pos.mpr hne, ?_, ?_, ?_⟩
    · rw [List.append_assoc, List.takeWhile_append_of_pos hkeep, List.length_append]
      omega
    · rw [List.append_assoc, List.drop_left]
      exact List.isPrefixOf_iff_prefix.mpr (List.prefix_append _ _)
    · rw [List.append_assoc, List.take_left]
  · rintro ⟨k, h₀, hk, hurl, rfl⟩
    obtain ⟨u, hu⟩ := List.takeWhile_prefix (fun c => decide (c ≠ '\n')) (l := rest)
    have htake : rest.take k = (rest.takeWhile fun c => decide (c ≠ '\n')).take k := by
      conv_lhs => rw [← hu]
      exact List.take_append_of_le_length hk
    have hlen : k ≤ rest.length := hk.trans (List.takeWhile_sublist _).length_le
    refine ⟨List.ne_nil_of_length_pos (by rw [List.length_take]; omega), fun hn => ?_, ?_⟩
    · rw [htake] at hn
      exact of_decide_eq_true
        (List.mem_takeWhile_imp (p := fun c => decide (c ≠ '\n')) (List.mem_of_mem_take hn)) rfl
    · obtain ⟨t, ht⟩ := List.isPrefixOf_iff_prefix.mp hurl
      exact ⟨t, by rw [List.append_assoc, ht, List.take_append_drop]⟩

/-- On a name with the prefix, `matchModelUrl` maps the end `urlGroupEnd` finds to the
group it closes. -/
theorem matchModelUrl_of_startswith {name : String} (hp : startswith name "EVAL_HUB_MODEL_") :
    matchModelUrl name =
      (urlGroupEnd (name.data.drop 15) ((name.data.drop 15).takeWhile (· ≠ '\n')).length).map
        fun k => ⟨(name.data.drop 15).take k⟩ := by
  unfold matchModelUrl
  rw [if_pos hp]
  rfl

/-- An end within the newline-free stretch closes a group of that length. -/
theorem length_take_of_le_takeWhile {rest : List Char} {k : Nat}
    (hk : k ≤ (rest.takeWhile (· ≠ '\n')).length) : (rest.take k).length = k := by
  rw [List.length_take]
  exact min_eq_left (hk.trans (List.takeWhile_sublist _).length_le)

/-- `matchModelUrl` returns `g` exactly when `g` is the longest group. -/
theorem matchModelUrl_eq_some_iff (name : String) (g : List Char) :
    matchModelUrl name = some ⟨g⟩ ↔
      IsGroup name g ∧ ∀ g', IsGroup name g' → g'.length ≤ g.length := by
  by_cases hp : startswith name "EVAL_HUB_MODEL_"
  · simp only [matchModelUrl_of_startswith hp, isGroup_iff hp, Option.map_eq_some']
    generalize name.data.drop 15 = rest
    constructor
    · rintro ⟨k, hk, hg⟩
      obtain ⟨h₀, hkn, hurl, hmax⟩ := (urlGroupEnd_eq_some_iff _ _ k).mp hk
      cases hg
      refine ⟨⟨k, h₀, hkn, hurl, rfl⟩, ?_⟩
      rintro _ ⟨k', -, hk', hurl', rfl⟩
      rw [length_take_of_le_takeWhile hkn, length_take_of_le_takeWhile hk']
      by_contra hlt
      rw [hmax k' (by omega) hk'] at hurl'
      cases hurl'
    · rintro ⟨⟨k, h₀, hkn, hurl, rfl⟩, hmax⟩
      refine ⟨k, (urlGroupEnd_eq_some_iff _ _ k).mpr ⟨h₀, hkn, hurl, fun k' h₁ h₂ => ?_⟩, rfl⟩
      by_contra hurl'
      have := hmax _ ⟨k', by omega, h₂, Bool.not_eq_false _ ▸ hurl', rfl⟩
      rw [length_take_of_le_takeWhile hkn, length_take_of_le_takeWhile h₂] at this
      omega
  · unfold matchModelUrl
    rw [if_neg hp]
    exact iff_of_false nofun fun h => hp (startswith_of_isGroup h.1)

/-- `matchModelUrl` fails exactly when the name has no group. -/
theorem matchModelUrl_eq_none_iff (name : String) :
    matchModelUrl name = none ↔ ∀ g, ¬ IsGroup name g := by
  by_cases hp : startswith name "EVAL_HUB_MODEL_"
  · simp only [matchModelUrl_of_startswith hp, isGroup_iff hp, Option.map_eq_none',
      urlGroupEnd_eq_none_iff]
    constructor
    · rintro h g ⟨k, h₀, hk, hurl, -⟩
      rw [h k h₀ hk] at hurl
      cases hurl
    · intro h k h₀ hk
      by_contra hurl
      exact h _ ⟨k, h₀, hk, Bool.not_eq_false _ ▸ hurl, rfl⟩
  · unfold matchModelUrl
    rw [if_neg hp]
    exact iff_of_true rfl fun g h => hp (startswith_of_isGroup h)

/-- The match reads declaratively: `re.match` returns the longest group the pattern admits,
and fails exactly when the pattern admits none. -/
theorem matchModelUrl_greedy (name : String) :
    (∀ g : String, matchModelUrl name = some g ↔
      IsGroup name g.data ∧ ∀ g', IsGroup name g' → g'.length ≤ g.data.length) ∧
    (matchModelUrl name = none ↔ ∀ g, ¬ IsGroup name g) :=
  ⟨fun ⟨g⟩ => matchModelUrl_eq_some_iff name g, matchModelUrl_eq_none_iff name⟩

end EvalHub.Proofs
