import Microblog.Proofs.Account.RoundTrip
import Microblog.Proofs.Service.Undertakings
import Microblog.Proofs.Sql.Invitations
import Microblog.Proofs.Store.Invitations

/-!
# How long tokens and invitations hold

Every number of hours is accepted from the environment (`ofEnv_lifetimes`), but
not every one can be counted. `lifetimes_hold_iff` says which can: the seconds
of a token must stay below 63 bits, with the clock and without it, and the end
of an invitation must have a date. A token that holds too long ends before it
begins, or there is none; an invitation that does so leaves its user behind in
memory, and nothing in the database.
-/

namespace Microblog

open Account Service

variable {c : Config} {a : Authority} {k : Claims} {now id : Int64} {app : App} {u : NewUser}
  {o : Occasion} {t : Timestamp} {secs : Int}

/-- Claims begin when they are made, and end after the time of a token as it is added. -/
theorem Account.Authority.ends_of_claimsFor? (h : a.claimsFor? now id = some k) :
    k.iat = now ∧ k.exp.toInt = now.toInt + (Int64.ofNat a.ttl).toInt := by
  unfold claimsFor? at h
  dsimp only at h
  split at h
  · rename_i hfits
    cases h
    exact ⟨rfl, Int64.toInt_ofInt_of_le (by omega) (by omega)⟩
  · cases h

namespace Config

/-- An environment with two numbers of hours. -/
def lifetimesEnv (tokenHours invitationHours : Int64) : Env := [
  ("DATABASE_URL", "postgres://localhost/social"),
  ("JWT_TTL_HOURS", String.ofList (Json.writeInt tokenHours.toInt)),
  ("INVITATION_TTL_HOURS", String.ofList (Json.writeInt invitationHours.toInt))]

/-- All numbers of hours are accepted. -/
theorem ofEnv_lifetimes (tokenHours invitationHours : Int64) :
    ∃ c, ofEnv (lifetimesEnv tokenHours invitationHours) = .ok c ∧
      c.tokens.ttlHours = tokenHours ∧ c.mail.invitationTtlHours = invitationHours := by
  refine ⟨_, rfl, ?_, ?_⟩
  · exact congrArg (·.getD 72) (Text.int64?_writeInt tokenHours)
  · exact congrArg (·.getD 72) (Text.int64?_writeInt invitationHours)

/-! ## Tokens -/

/-- Who signs tokens, if the seconds that they hold can be counted. -/
def authority? (c : Config) : Option Authority :=
  Authority.of? c.tokens.secret c.tokens.issuer c.tokens.audience c.tokens.ttlHours

/-- The seconds that tokens should hold: none if the number of hours is negative. -/
def tokenSecs (c : Config) : Int := 3600 * max 0 c.tokens.ttlHours.toInt

/-- Tokens are made for every user, and end as many seconds after their issue as they should. -/
def TokensLast (c : Config) (now : Int64) : Prop :=
  ∃ a, c.authority? = some a ∧ ∀ id, ∃ k, a.claimsFor? now id = some k ∧
    k.iat = now ∧ k.exp.toInt = now.toInt + c.tokenSecs

theorem authority?_isSome_iff : c.authority?.isSome ↔ c.tokenSecs < 0x10000000000000000 := by
  unfold authority? Authority.of? tokenSecs
  dsimp only
  split
  · exact iff_of_true rfl (by omega)
  · exact iff_of_false nofun (by omega)

theorem ttl_of_authority? (h : c.authority? = some a) :
    (a.ttl : Int) = c.tokenSecs ∧ a.ttl < 0x10000000000000000 := by
  have hfits := (Authority.of?_eq_some h).2.2.2
  unfold authority? Authority.of? at h
  dsimp only at h
  split at h
  · cases h
    refine ⟨?_, hfits⟩
    change ((c.tokens.ttlHours.toInt.toNat * 3600 : Nat) : Int) = c.tokenSecs
    rw [tokenSecs]
    omega
  · cases h

/-- Claims that are made end when they should, or too early by as many seconds as 64 bits count. -/
theorem exp_of_claimsFor? (ha : c.authority? = some a) (hk : a.claimsFor? now id = some k) :
    k.iat = now ∧ k.exp.toInt = now.toInt + c.tokenSecs -
      if c.tokenSecs < 0x8000000000000000 then 0 else 0x10000000000000000 := by
  obtain ⟨hiat, hexp⟩ := Authority.ends_of_claimsFor? hk
  obtain ⟨hsecs, hfits⟩ := ttl_of_authority? ha
  refine ⟨hiat, ?_⟩
  rw [hexp, Authority.toInt_ofNat_ttl hfits, ← hsecs]
  split <;> split <;> omega

theorem tokensLast_iff : c.TokensLast now ↔
    c.tokenSecs < 0x8000000000000000 ∧ now.toInt + c.tokenSecs < 0x8000000000000000 := by
  constructor
  · rintro ⟨a, ha, hclaims⟩
    obtain ⟨k, hk, -, hexp⟩ := hclaims 0
    have hend := (exp_of_claimsFor? ha hk).2
    have hlt := k.exp.toInt_lt
    split at hend <;> omega
  · rintro ⟨hsecs, hend⟩
    have hcounts : c.tokenSecs < 0x10000000000000000 := by omega
    obtain ⟨a, ha⟩ := Option.isSome_iff_exists.1 (authority?_isSome_iff.2 hcounts)
    obtain ⟨httl, hfits⟩ := ttl_of_authority? ha
    refine ⟨a, ha, fun id => ?_⟩
    have hmade : a.ttl < 0x8000000000000000 ↔ now.toInt + a.ttl < 0x8000000000000000 := by omega
    obtain ⟨k, hk⟩ := (Authority.exists_claimsFor?_iff hfits).2 hmade
    obtain ⟨hiat, hexp⟩ := exp_of_claimsFor? ha hk
    exact ⟨k, hk, hiat, by rw [hexp, if_pos hsecs, Int.sub_zero]⟩

/-- Claims end before they begin exactly if they hold for as many seconds as fill 63 bits. -/
theorem exp_lt_iat_iff (ha : c.authority? = some a) (hk : a.claimsFor? now id = some k) :
    k.exp < k.iat ↔ 0x8000000000000000 ≤ c.tokenSecs := by
  obtain ⟨hiat, hexp⟩ := exp_of_claimsFor? ha hk
  have hfits := authority?_isSome_iff.1 (Option.isSome_of_mem ha)
  have hnonneg : 0 ≤ c.tokenSecs := by
    rw [tokenSecs]
    omega
  rw [Int64.lt_iff_toInt_lt, hiat, hexp]
  split <;> omega

/-! ## Invitations -/

/-- The seconds of an invitation have a 64-bit number. -/
def CountsInvitation (c : Config) : Prop :=
  -0x8000000000000000 ≤ c.mail.invitationTtlHours.toInt * 3600 ∧
    c.mail.invitationTtlHours.toInt * 3600 < 0x8000000000000000

/-- When an invitation should end. -/
def invitationEnd (c : Config) (now : Timestamp) : Timestamp :=
  ⟨now.nanos + c.mail.invitationTtlHours.toInt * 3600 * Timestamp.second, now.offset⟩

theorem invitationSecs?_eq_some_iff : c.invitationSecs? = some secs ↔
    c.CountsInvitation ∧ secs = c.mail.invitationTtlHours.toInt * 3600 := by
  unfold invitationSecs?
  dsimp only
  rw [Option.ite_none_right_eq_some, Option.some.injEq, eq_comm (a := secs)]
  rfl

theorem add?_invitationSecs (h : c.invitationSecs? = some secs) (now : Timestamp) :
    now.add? (secs * Timestamp.second) =
      if (c.invitationEnd now).InRange then some (c.invitationEnd now) else none := by
  obtain ⟨-, rfl⟩ := invitationSecs?_eq_some_iff.1 h
  rfl

/-- The seconds of an invitation are counted, and with them it ends when it should, in memory and,
to the microsecond, in the database. -/
def InvitationsLast (c : Config) (now : Timestamp) : Prop :=
  ∃ secs, c.invitationSecs? = some secs ∧
    Store.InvitesUntil (secs * Timestamp.second) now (c.invitationEnd now) ∧
    Sql.InvitesUntil (secs * Timestamp.second) now (Sql.serverTime (c.invitationEnd now))

theorem invitationsLast_iff : c.InvitationsLast t ↔ c.CountsInvitation ∧
    (c.invitationEnd t).InRange ∧ (⟨(c.invitationEnd t).nanos, 0⟩ : Timestamp).InRange := by
  constructor
  · rintro ⟨secs, hsecs, hmemory, hdatabase⟩
    have hadd := add?_invitationSecs hsecs t
    rw [Store.invitesUntil_iff.1 hmemory] at hadd
    have hend := Sql.invitesUntil_iff.1 hdatabase
    rw [Sql.invitationEnd?, Store.invitesUntil_iff.1 hmemory, Option.bind_some,
      Sql.serverTime?] at hend
    exact ⟨(invitationSecs?_eq_some_iff.1 hsecs).1, (Option.ite_none_right_eq_some.1 hadd.symm).1,
      (Option.ite_none_right_eq_some.1 hend).1⟩
  · rintro ⟨hcounts, hrange, hutc⟩
    have hsecs := invitationSecs?_eq_some_iff.2 ⟨hcounts, rfl⟩
    have hadd := (add?_invitationSecs hsecs t).trans (if_pos hrange)
    refine ⟨_, hsecs, Store.invitesUntil_iff.2 hadd, Sql.invitesUntil_iff.2 ?_⟩
    rw [Sql.invitationEnd?, hadd, Option.bind_some, Sql.serverTime?, if_pos hutc]

end Config

/-! ## Registrations -/

namespace Service

/-- A registration has no reply, and leaves a user with an address that nobody had, but no
invitation. -/
structure StopsHalfWay (app : App) (u : NewUser) (o : Occasion) : Prop where
  silent : (app.register u o).1 = none
  new : ∀ v ∈ app.store.users.values, v.email ≠ u.email
  stored : ∃ v ∈ (app.register u o).2.store.users.values, v.email = u.email
  uninvited : (app.register u o).2.store.invitations = app.store.invitations

/-- It happens to a user who is admitted, if the end of the invitation has no date. -/
theorem stopsHalfWay_iff_add? : StopsHalfWay app u o ↔ app.store.Admits u ∧
    ∃ secs, app.config.invitationSecs? = some secs ∧
      o.now.add? (secs * Timestamp.second) = none := by
  constructor
  · rintro ⟨hsilent, hnew, ⟨v, hv, hemail⟩, -⟩
    rcases register_cases u o app with ⟨r, he, -⟩ | ⟨secs, s, hsecs, ⟨hinvite, he⟩ |
      ⟨user, -, ⟨-, he⟩ | ⟨-, m, -, he⟩⟩⟩ <;> rw [he] at hsilent hv
    · exact absurd hemail (hnew v hv)
    · by_cases hadmits : app.store.Admits u
      · obtain ⟨id, at', hstored⟩ := Store.createAndInvite_of_admits hadmits o.token
          (secs * Timestamp.second) o.now
        rw [hinvite] at hstored
        cases hadd : o.now.add? (secs * Timestamp.second) with
        | none => exact ⟨hadmits, secs, hsecs, hadd⟩
        | some expiry =>
          rw [hadd] at hstored
          cases hstored
      · obtain ⟨e, hkept, -⟩ := Store.createAndInvite_of_not_admits hadmits o.token
          (secs * Timestamp.second) o.now
        rw [hinvite] at hkept
        cases hkept
        exact absurd hemail (hnew v hv)
    · cases hsilent
    · cases hsilent
  · rintro ⟨hadmits, secs, hsecs, hadd⟩
    obtain ⟨id, at', he⟩ := Store.createAndInvite_of_admits hadmits o.token
      (secs * Timestamp.second) o.now
    rw [hadd] at he
    have hregister : app.register u o = (none, { app with store := { app.store with
        lastId := id
        clock := at'
        users := app.store.users.insert id (app.store.newUser u "user" false id at') } }) := by
      unfold App.register App.invite
      simp only [hsecs, he]
    refine ⟨?_, hadmits.email, ⟨app.store.newUser u "user" false id at', ?_, rfl⟩, ?_⟩ <;>
      rw [hregister]
    exact Store.Table.mem_values_iff.2 ⟨id, (Store.Table.get?_insert _ _ _ _).trans (if_pos rfl)⟩

theorem stopsHalfWay_iff : StopsHalfWay app u o ↔ app.store.Admits u ∧
    app.config.CountsInvitation ∧ ¬ (app.config.invitationEnd o.now).InRange := by
  rw [stopsHalfWay_iff_add?]
  refine and_congr_right fun _ => ⟨?_, fun ⟨hcounts, hrange⟩ => ?_⟩
  · rintro ⟨secs, hsecs, hadd⟩
    refine ⟨(Config.invitationSecs?_eq_some_iff.1 hsecs).1, fun hrange => ?_⟩
    rw [Config.add?_invitationSecs hsecs, if_pos hrange] at hadd
    cases hadd
  · have hsecs := Config.invitationSecs?_eq_some_iff.2 ⟨hcounts, rfl⟩
    exact ⟨_, hsecs, (Config.add?_invitationSecs hsecs _).trans (if_neg hrange)⟩

/-- **Lifetimes.** Tokens end when they should exactly if their seconds stay below 63 bits, with the
clock and without it; claims that are made with more seconds end before they begin. Invitations end
when they should exactly if there is a date for it. Where there is none, every registration in memory
that is not refused stops half-way, but what the database commits is complete. -/
theorem lifetimes_hold_iff (c : Config) (o : Occasion) :
    (c.TokensLast o.unix ↔ c.tokenSecs < 0x8000000000000000 ∧
      o.unix.toInt + c.tokenSecs < 0x8000000000000000) ∧
    (∀ a id k, c.authority? = some a → a.claimsFor? o.unix id = some k →
      (k.exp < k.iat ↔ 0x8000000000000000 ≤ c.tokenSecs)) ∧
    (c.InvitationsLast o.now ↔ c.CountsInvitation ∧ (c.invitationEnd o.now).InRange ∧
      (⟨(c.invitationEnd o.now).nanos, 0⟩ : Timestamp).InRange) ∧
    (∀ (app : App) (u : NewUser), app.config = c → (StopsHalfWay app u o ↔
      app.store.Admits u ∧ c.CountsInvitation ∧ ¬ (c.invitationEnd o.now).InRange)) ∧
    ∀ (u : NewUser) (ttl : Int) (script : List Sql.Response) (refused : Option Sql.Control),
      ∀ ms ∈ ((Sql.createAndInvite u o.token ttl o.now).runIn (.start script refused)).2.committed,
        ∃ id expiry, ms = Sql.registration u o.token id expiry := by
  refine ⟨Config.tokensLast_iff, fun _ _ _ => Config.exp_lt_iat_iff, Config.invitationsLast_iff,
    ?_, fun u ttl script refused ms hms => ?_⟩
  · rintro app u rfl
    exact stopsHalfWay_iff
  · obtain ⟨id, expiry, -, hcommitted⟩ := Sql.registration_of_committed hms
    exact ⟨id, expiry, hcommitted⟩

/-- With hours that are accepted, claims end before they begin, and a registration stops
half-way. -/
theorem long_lifetimes_go_wrong :
    ∃ c a k app, Config.ofEnv (Config.lifetimesEnv 2562047788015216 87600000) = .ok c ∧
      c.authority? = some a ∧ a.claimsFor? 1700000000 5 = some k ∧ k.exp < k.iat ∧
      App.start? c .initial none .discarding 0 = some app ∧
      StopsHalfWay app ⟨"al", "al@example.com", ⟨""⟩⟩ ⟨.ofUnix 1700000000, 0, "tok", []⟩ := by
  obtain ⟨c, hc, htokens, hinvitations⟩ := Config.ofEnv_lifetimes 2562047788015216 87600000
  have hsecs : c.tokenSecs = 9223372036854777600 := by
    rw [Config.tokenSecs, htokens]
    rfl
  have hfew : c.tokenSecs < 0x10000000000000000 := by omega
  obtain ⟨a, ha⟩ := Option.isSome_iff_exists.1 (Config.authority?_isSome_iff.2 hfew)
  obtain ⟨httl, hfits⟩ := Config.ttl_of_authority? ha
  have hmade : a.ttl < 0x8000000000000000 ↔
      (1700000000 : Int64).toInt + a.ttl < 0x8000000000000000 := by
    have hnow : (1700000000 : Int64).toInt = 1700000000 := rfl
    omega
  have hclaims : ∃ k, a.claimsFor? 1700000000 5 = some k :=
    (Authority.exists_claimsFor?_iff hfits).2 hmade
  obtain ⟨k, hk⟩ := hclaims
  refine ⟨c, a, k, _, hc, ha, hk, (Config.exp_lt_iat_iff ha hk).2 (by omega),
    Option.map_eq_some_iff.2 ⟨a, ha, rfl⟩, stopsHalfWay_iff.2 ⟨⟨nofun, nofun, nofun⟩, ?_, ?_⟩⟩
  · change c.CountsInvitation
    rw [Config.CountsInvitation, hinvitations]
    decide
  · change ¬ (c.invitationEnd (.ofUnix 1700000000)).InRange
    rw [Config.invitationEnd, hinvitations]
    decide

end Service

end Microblog
