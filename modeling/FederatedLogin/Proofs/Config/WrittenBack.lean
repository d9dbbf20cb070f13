import FederatedLogin.Proofs.Config.Usable

/-! # Odoo settings written back

A section that has been resolved can be written back as a layer and resolved again. All fields are
then as they were but for the address: blanks that stand before the slashes at its end are kept the
first time and dropped the second time.
-/

namespace FederatedLogin.Config

def OdooConfig.asLayer (c : OdooConfig) : OdooLayer where
  baseUrl := c.baseUrl
  database := c.database
  jsonrpcPath := some c.jsonrpcPath
  timeoutMs := some (.ofNat c.timeoutMs)
  syncOrganizations := some c.syncOrganizations

/-- An address in which a blank stands before the slashes at the end, if blanks around the whole do
not count. -/
def BlankBeforeSlashes (s : String) : Prop :=
  ∃ early b slashes, (Text.trim s).toList = early ++ b :: slashes ∧ Text.isBlank b = true ∧
    ∀ c ∈ slashes, c = '/'

variable {s : String} {l : OdooLayer}

/-! ## Fields that are tidy -/

theorem rootedPath_eq_self (h : s.toList.head? = some '/') : rootedPath s = s := by
  simp [rootedPath, h]

theorem notBlank_of_head? (h : s.toList.head? = some '/') : notBlank s = true := by
  rw [notBlank_iff]
  cases hs : s.toList with
  | nil => rw [hs] at h; cases h
  | cons c t =>
    obtain rfl : c = '/' := by simpa [hs] using h
    have hslash : Text.isBlank '/' = false := by decide
    simp [Text.isAllBlank, hs, hslash]

theorem resolveTimeout_ofNat {n : Nat} (hpos : 1 ≤ n) (hle : (n : Int) ≤ Int64.maxValue.toInt) :
    resolveTimeout (some (.ofNat n)) = n := by
  have hmax : Int64.maxValue.toInt = 2 ^ 63 - 1 := rfl
  have hn : (Int64.ofNat n).toInt = n := Int64.toInt_ofNat_of_lt (by omega)
  rw [resolveTimeout, hn, if_pos (by omega), Int.toNat_natCast]

/-! ## Addresses -/

theorem not_isBlank_head?_tidyBaseUrl {c : Char} (h : (tidyBaseUrl s).toList.head? = some c) :
    Text.isBlank c = false := by
  rw [tidyBaseUrl, String.toList_ofList] at h
  have hne : Text.dropEndWhile (· == '/') (Text.trim s).toList ≠ [] := by
    intro hnil
    rw [hnil] at h
    cases h
  rw [Text.head?_of_isPrefix (Text.dropEndWhile_isPrefix _ _) hne] at h
  exact Text.isTrimmed_trim s c (.inl h)

/-- A tidy address ends in a blank if one stands before the slashes that have been dropped. -/
theorem isTrimmed_tidyBaseUrl_iff : Text.IsTrimmed (tidyBaseUrl s) ↔ ¬ BlankBeforeSlashes s := by
  constructor
  · rintro h ⟨early, b, slashes, hs, hb, hslashes⟩
    have hdrop : Text.dropEndWhile (· == '/') (Text.trim s).toList = early ++ [b] := by
      have hlast : ∀ c, (early ++ [b]).getLast? = some c → (c == '/') = false := by
        intro c hc
        obtain rfl : b = c := by simpa using hc
        refine beq_false_of_ne ?_
        rintro rfl
        exact absurd hb (by decide)
      rw [hs, List.append_cons, Text.dropEndWhile_append fun c hc => beq_iff_eq.mpr (hslashes c hc),
        Text.dropEndWhile_eq_self hlast]
    have hnot : Text.isBlank b = false := h b (.inr (by simp [tidyBaseUrl, hdrop]))
    exact absurd hb (by simp [hnot])
  · rintro h c (hc | hc)
    · exact not_isBlank_head?_tidyBaseUrl hc
    · refine Bool.eq_false_iff.mpr fun hblank => h ?_
      obtain ⟨slashes, hsplit, hslashes⟩ :=
        Text.exists_dropEndWhile_append (· == '/') (Text.trim s).toList
      rw [tidyBaseUrl, String.toList_ofList] at hc
      obtain ⟨early, hearly⟩ := List.getLast?_eq_some_iff.mp hc
      refine ⟨early, c, slashes, ?_, hblank, fun d hd => beq_iff_eq.mp (hslashes d hd)⟩
      rw [← hsplit, hearly, List.append_assoc, List.singleton_append]

theorem tidyBaseUrl_tidyBaseUrl_iff :
    tidyBaseUrl (tidyBaseUrl s) = tidyBaseUrl s ↔ Text.IsTrimmed (tidyBaseUrl s) := by
  constructor
  · intro h
    generalize tidyBaseUrl s = u at h
    -- what is tidy about it is a part of what trimming leaves of it
    have hpart : u.toList.Sublist (Text.trim u).toList := by
      conv_lhs => rw [← h]
      rw [tidyBaseUrl, String.toList_ofList]
      exact (Text.dropEndWhile_isPrefix _ _).sublist
    have htrim : (Text.trim u).toList.Sublist u.toList := by
      rw [Text.trim, String.toList_ofList]
      exact Text.stripWhile_sublist _ _
    exact Text.trim_eq_self_iff.mp (String.toList_inj.mp (htrim.antisymm hpart))
  · intro h
    have hlast : ∀ c, (tidyBaseUrl s).toList.getLast? = some c → (c == '/') = false := by
      intro c hc
      refine beq_false_of_ne ?_
      rintro rfl
      exact getLast?_tidyBaseUrl s hc
    rw [tidyBaseUrl, Text.trim_eq_self_iff.mpr h, Text.dropEndWhile_eq_self hlast,
      String.ofList_toList]

theorem BlankBeforeSlashes.tidyBaseUrl_ne_empty (h : BlankBeforeSlashes s) :
    tidyBaseUrl s ≠ "" := by
  intro hempty
  refine isTrimmed_tidyBaseUrl_iff.mp ?_ h
  rw [hempty]
  rintro c (hc | hc) <;> cases hc

/-! ## Sections -/

namespace OdooLayer

/-- Written back and resolved again, a section differs in its address alone. -/
theorem resolve_asLayer (l : OdooLayer) : l.resolve.asLayer.resolve =
    { l.resolve with baseUrl := (l.resolve.baseUrl.map tidyBaseUrl).filter nonEmpty } := by
  have hdatabase : (l.resolve.database.map Text.trim).filter nonEmpty = l.resolve.database := by
    cases hd : l.resolve.database with
    | none => rfl
    | some d =>
      obtain ⟨hne, t, rfl⟩ := tidied_of_filter hd
      rw [Option.map_some, Text.trim_eq_self_iff.mpr (Text.isTrimmed_trim t),
        Option.filter_some_pos (nonEmpty_iff.mpr hne)]
  have hhead : l.resolve.jsonrpcPath.toList.head? = some '/' := by
    change (((l.jsonrpcPath.filter notBlank).map rootedPath).getD _).toList.head? = _
    cases l.jsonrpcPath.filter notBlank with
    | none => decide
    | some t => exact head?_rootedPath t
  have hpath : (((some l.resolve.jsonrpcPath).filter notBlank).map rootedPath).getD
      defaultJsonrpcPath = l.resolve.jsonrpcPath := by
    rw [Option.filter_some_pos (notBlank_of_head? hhead), Option.map_some, Option.getD_some,
      rootedPath_eq_self hhead]
  have hlimit := (isTimeLimit_resolveTimeout l.timeoutMs).bounds
  have htimeout : resolveTimeout (some (.ofNat l.resolve.timeoutMs)) = l.resolve.timeoutMs :=
    resolveTimeout_ofNat hlimit.1 hlimit.2
  rw [resolve, OdooConfig.asLayer]
  dsimp only
  rw [hdatabase, hpath, htimeout]
  rfl

theorem resolve_asLayer_eq_iff :
    l.resolve.asLayer.resolve = l.resolve ↔ ∀ s, l.baseUrl = some s → ¬ BlankBeforeSlashes s := by
  have haddress : l.resolve.asLayer.resolve = l.resolve ↔
      (l.resolve.baseUrl.map tidyBaseUrl).filter nonEmpty = l.resolve.baseUrl := by
    rw [resolve_asLayer]
    exact ⟨congrArg OdooConfig.baseUrl, fun h => by rw [h]⟩
  have hresolved : l.resolve.baseUrl = (l.baseUrl.map tidyBaseUrl).filter nonEmpty := rfl
  rw [haddress, hresolved]
  cases l.baseUrl with
  | none => exact iff_of_true rfl nofun
  | some s =>
    rw [Option.map_some]
    by_cases hempty : tidyBaseUrl s = ""
    · have hnone : (some (tidyBaseUrl s)).filter nonEmpty = none :=
        Option.filter_some_neg (by simp [nonEmpty, hempty])
      rw [hnone]
      refine iff_of_true rfl ?_
      rintro _ ⟨⟩ hblank
      exact hblank.tidyBaseUrl_ne_empty hempty
    · have hsome : (some (tidyBaseUrl s)).filter nonEmpty = some (tidyBaseUrl s) :=
        Option.filter_some_pos (nonEmpty_iff.mpr hempty)
      rw [hsome, Option.map_some, Option.filter_eq_some_iff, Option.some_inj,
        and_iff_left (nonEmpty_iff.mpr hempty), tidyBaseUrl_tidyBaseUrl_iff,
        isTrimmed_tidyBaseUrl_iff]
      simp

/-- A section that is written back and resolved again comes out as it was if and only if no blank
stands before the slashes at the end of its address, and that is when the address is trimmed. In any
case the address neither starts with a blank nor ends in a slash, and nothing else changes. -/
theorem resolves_alike_iff (l : OdooLayer) :
    (l.resolve.asLayer.resolve = l.resolve ↔
      ∀ s, l.baseUrl = some s → ¬ BlankBeforeSlashes s) ∧
    l.resolve.asLayer.resolve =
      { l.resolve with baseUrl := (l.resolve.baseUrl.map tidyBaseUrl).filter nonEmpty } ∧
    ∀ u, l.resolve.baseUrl = some u →
      u ≠ "" ∧ u.toList.getLast? ≠ some '/' ∧
      (∀ c, u.toList.head? = some c → Text.isBlank c = false) ∧
      (Text.IsTrimmed u ↔ l.resolve.asLayer.resolve = l.resolve) := by
  refine ⟨resolve_asLayer_eq_iff, resolve_asLayer l, fun u hu => ?_⟩
  obtain ⟨hset, hne⟩ := Option.filter_eq_some_iff.mp hu
  obtain ⟨s, hs, rfl⟩ := Option.map_eq_some_iff.mp hset
  refine ⟨nonEmpty_iff.mp hne, getLast?_tidyBaseUrl s, fun _ => not_isBlank_head?_tidyBaseUrl, ?_⟩
  rw [isTrimmed_tidyBaseUrl_iff, resolve_asLayer_eq_iff, hs]
  simp

/-- Blanks around an address do not matter, nor do those inside it. -/
theorem spaced_address_settles :
    let l : OdooLayer := { baseUrl := some " https://erp test//\t", jsonrpcPath := some " rpc" }
    l.resolve.baseUrl = some "https://erp test" ∧ Text.IsTrimmed "https://erp test" ∧
      l.resolve.asLayer.resolve = l.resolve := by
  intro l
  have hu : l.resolve.baseUrl = some "https://erp test" := by decide +kernel
  have htrimmed : Text.IsTrimmed "https://erp test" := Text.trim_eq_self_iff.mp (by decide +kernel)
  exact ⟨hu, htrimmed, ((resolves_alike_iff l).2.2 _ hu).2.2.2.mp htrimmed⟩

/-- A blank before the slash at the end is kept, and gone when the section is resolved again. -/
theorem blank_before_slash_stays :
    let l : OdooLayer := { baseUrl := some "https://erp.test /" }
    l.resolve.baseUrl = some "https://erp.test " ∧
      l.resolve.asLayer.resolve.baseUrl = some "https://erp.test" ∧
      l.resolve.asLayer.resolve ≠ l.resolve := by
  decide +kernel

end OdooLayer

end FederatedLogin.Config
