import FederatedLogin.Proofs.Provisioning.Privileges
import FederatedLogin.Proofs.Provisioning.Returned
import FederatedLogin.Proofs.Username.Form

/-! # Usernames of provisioned users

Runs create users under names that have been cleaned or generated. In a store that was empty before
the runs all usernames are therefore of one form, and as it leaves no choice of letter case, no two
of them are the same in any.
-/

namespace FederatedLogin

open Username (IsProper)

theorem Identity.isProper_localUsername (i : Identity) {generated : String}
    (hg : IsProper generated) : IsProper (i.localUsername generated) := by
  unfold Identity.localUsername
  cases hc : Username.clean (Text.before '@' i.loginName) with
  | none => exact hg
  | some name => exact Username.isProper_of_clean hc

namespace Username

theorem IsProper.lower_ne {a b : String} (ha : IsProper a) (hb : IsProper b) (h : a ≠ b) :
    Text.lower a ≠ Text.lower b := by
  rwa [lower_eq_self ha.chars, lower_eq_self hb.chars]

end Username

namespace Provisioning

open Store (Call disturbed)

/-- A call that creates no user but under a name of the form of usernames. -/
def NamesProperly : Call → Prop
  | .createUser new => IsProper new.username
  | .findUserByEmail _ | .findTeamByName _ | .createTeam _ | .addUserToTeam _ _
  | .setTeamRole _ _ _ | .issueSession _ _ => True

theorem namesProperly_of_isTeamCall {c : Call} (h : IsTeamCall c) : NamesProperly c := by
  cases c with
  | createUser new => cases h
  | _ => trivial

theorem namesProperly_newUser (i : Identity) {name : String} (h : IsProper name) :
    NamesProperly (.createUser (newUser i name)) :=
  h

theorem provision_namesProperly {i : Identity} {spare : SpareNames} (client : ClientContext)
    (hfirst : IsProper spare.first) (hsecond : IsProper spare.second) :
    (provision i client spare).MakesOnly NamesProperly := by
  rw [provision_eq_joinAfter]
  have hproposed := namesProperly_newUser i (i.isProper_localUsername hfirst)
  have hestablish : (establish i client spare).MakesOnly NamesProperly :=
    establish_makesOnly trivial hproposed (namesProperly_newUser i hsecond) fun _ => trivial
  exact hestablish.bind fun established =>
    (joinAfter_makesOnly i established).mono fun _ => namesProperly_of_isTeamCall

theorem Run.isProper_spare (r : Run) : IsProper r.spare.first ∧ IsProper r.spare.second :=
  ⟨Username.isProper_generated r.firstSerial, Username.isProper_generated r.secondSerial⟩

section History

variable {ι : Type} [DecidableEq ι] {faults : Call → Store.Fault → Prop} {runs : ι → Run}
  {q : Pool ι} {log : List (Event ι)} {k : ι} {u : User}

theorem History.isProper_of_creation {s : Store} (h : History (disturbed faults) runs s log q)
    (hu : (k, u) ∈ creations log) : IsProper u.username := by
  obtain ⟨t, ht, hcreated⟩ := List.mem_filterMap.mp (mem_creations.mp hu)
  obtain ⟨new, rfl⟩ := exists_of_createdUser? hcreated
  obtain ⟨hfirst, hsecond⟩ := (runs k).isProper_spare
  have hname := (provision_namesProperly (runs k).client hfirst hsecond).of_path (h.follows k) _ ht
  obtain ⟨_, _, hc⟩ := (h.view k).exists_of_mem ht
  obtain ⟨_, _, id, now, rfl⟩ := Store.exists_of_created hc
  exact hname

/-- In a store that was empty all usernames are of the form, and none is that of two users. -/
theorem History.usernames (h : History (disturbed faults) runs .empty log q) :
    (∀ u ∈ q.store.users, IsProper u.username) ∧
      q.store.users.Pairwise fun u v => u.username ≠ v.username ∧
        Text.lower u.username ≠ Text.lower v.username := by
  have hproper : ∀ u ∈ q.store.users, IsProper u.username := fun u hu => by
    obtain ⟨k, hk⟩ := h.exists_creation hu
    exact h.isProper_of_creation hk
  have hdistinct := List.pairwise_map.mp (h.sound Store.sound_empty).usernames
  refine ⟨hproper, hdistinct.imp_of_mem fun hu hv hne => ⟨hne, ?_⟩⟩
  exact (hproper _ hu).lower_ne (hproper _ hv) hne

end History

/-- A cleaned login is a name of the form, and cleaning leaves it as it is. Where a login is cut
after bytes, it is cut between characters. Generated names are left as they are, too. So the names
that identities propose are of the form, and so are the usernames of a store that runs have filled,
whatever fails and in whatever order they make their calls. No two of these are the same in any
letter case. -/
theorem usernames_proper :
    (∀ raw name, Username.clean raw = some name →
      IsProper name ∧ Username.clean name = some name) ∧
    (∀ raw, ∃ kept rest,
      String.ofList (Username.startWithLetter (Username.core raw)) = kept ++ rest ∧
        kept.utf8ByteSize =
          min 64 (String.ofList (Username.startWithLetter (Username.core raw))).utf8ByteSize ∧
        Username.clean raw =
          if Username.core raw = [] ∨ Username.isReserved
            (.ofList (Text.dropEndWhile Username.isPunctuation kept.toList)) = true then none
          else some (.ofList (Text.dropEndWhile Username.isPunctuation kept.toList))) ∧
    (∀ serial, Username.clean (Username.generated serial) = some (Username.generated serial)) ∧
    (∀ (i : Identity) serial, IsProper (i.localUsername (Username.generated serial))) ∧
    ∀ {ι : Type} [DecidableEq ι] {faults : Call → Store.Fault → Prop} {runs : ι → Run}
      {log : List (Event ι)} {q : Pool ι}, History (disturbed faults) runs .empty log q →
      (∀ u ∈ q.store.users, IsProper u.username) ∧
        q.store.users.Pairwise fun u v => u.username ≠ v.username ∧
          Text.lower u.username ≠ Text.lower v.username := by
  refine ⟨fun raw name h => ?_, Username.clean_eq_of_bytes, fun serial => ?_, fun i serial => ?_,
    fun h => h.usernames⟩
  · have hname := Username.isProper_of_clean h
    exact ⟨hname, hname.clean_eq_self⟩
  · exact (Username.isProper_generated serial).clean_eq_self
  · exact i.isProper_localUsername (Username.isProper_generated serial)

/-- A login whose capitals become two characters each, so that it is cut after one that no username
may end in, and two colleagues who have raced. -/
theorem colleagues_usernames :
    let raw := "@7" ++ String.ofList (List.replicate 31 'İ') ++ "X"
    let name := "u7" ++ String.ofList ((List.replicate 30 ['i', '-']).flatten ++ ['i'])
    (Username.clean raw = some name ∧ IsProper name ∧ Username.clean name = some name) ∧
    ∃ log q, History (disturbed fun _ _ => False) colleagues .empty log q ∧
      q.store.users.map (·.username) = ["ada", "bob"] ∧
      (∀ u ∈ q.store.users, IsProper u.username) ∧
      q.store.users.Pairwise fun u v => u.username ≠ v.username ∧
        Text.lower u.username ≠ Text.lower v.username := by
  intro raw name
  obtain ⟨hclean, -, -, -, husernames⟩ := usernames_proper
  have hname : Username.clean raw = some name := by decide +kernel
  obtain ⟨log, q, h, hstore, -⟩ := colleagues_finish
  have hhistory := h.history.withFaults fun _ _ => False
  have hnames : q.store.users.map (·.username) = ["ada", "bob"] := by rw [hstore]; rfl
  exact ⟨⟨hname, hclean raw name hname⟩, log, q, hhistory, hnames, husernames hhistory⟩

end Provisioning

end FederatedLogin
