import GenericAuth.Interaction.Since
import GenericAuth.Properties.OneTimeTokens
import GenericAuth.Properties.RegistryRefinement

/-! The history of a mailed link. Whether a link works when it is opened is decided
by the statement that stored it, its time, and whether it has been opened before. -/
namespace GenericAuth

open Interaction Relational

/-! ### In the registry -/

/-- The links of one kind. -/
def TokenKind.links (registry : Registry) : TokenKind → String → Option Link
  | .emailVerification => registry.verification
  | .passwordReset => registry.reset

/-- The link was not opened; it belongs to this user and works until this time. -/
def Unopened (links : String → Option Link) (tokenHash : String) (userId : Uuid)
    (expiresAt : OffsetDateTime) : Prop :=
  (links tokenHash).map (fun link => (link.owner, link.expiresAt, link.usedAt)) =
    some (userId, expiresAt, none)

/-- The call is a successful statement that stores a link. -/
def TokenKind.stores (tokenHash : String) (userId : Uuid) (expiresAt : OffsetDateTime) :
    TokenKind → Call Op Op.Reply → Prop
  | .emailVerification, ⟨.sql (.storeEmailVerificationToken userId' tokenHash' expiresAt'), .ok _⟩
  | .passwordReset, ⟨.sql (.storePasswordResetToken userId' tokenHash' expiresAt'), .ok _⟩ =>
      tokenHash' = tokenHash ∧ userId' = userId ∧ expiresAt' = expiresAt
  | _, _ => False

/-- The call opens the link. -/
def TokenKind.opens (tokenHash : String) : TokenKind → Call Op Op.Reply → Prop
  | .emailVerification, ⟨.sql (.consumeEmailVerificationToken tokenHash'), .ok (some _)⟩
  | .passwordReset, ⟨.sql (.consumePasswordResetToken tokenHash'), .ok (some _)⟩ =>
      tokenHash' = tokenHash
  | _, _ => False

theorem unopened_storeLink {links : String → Option Link} {tokenHash tokenHash' : String}
    {userId : Uuid} {expiresAt : OffsetDateTime} {link : Link} (hNew : link.usedAt = none) :
    Unopened (Registry.storeLink links tokenHash' link) tokenHash userId expiresAt ↔
      (links tokenHash = none ∧ tokenHash' = tokenHash ∧ link.owner = userId ∧
        link.expiresAt = expiresAt) ∨ Unopened links tokenHash userId expiresAt := by
  unfold Registry.storeLink Unopened
  split
  · next hTaken => grind
  · next hFree =>
      by_cases hHash : tokenHash = tokenHash'
      · subst hHash
        have hNone : links tokenHash = none := by simpa using hFree
        simp [hNone, hNew]
      · rw [Function.update_of_ne hHash]
        grind

theorem unopened_useLink {links : String → Option Link} {now : OffsetDateTime}
    {tokenHash tokenHash' : String} {userId : Uuid} {expiresAt : OffsetDateTime} :
    Unopened (Registry.useLink links now tokenHash') tokenHash userId expiresAt ↔
      Unopened links tokenHash userId expiresAt ∧
        ¬(tokenHash' = tokenHash ∧ (Registry.openLink links now tokenHash').isSome = true) := by
  unfold Registry.useLink Unopened
  by_cases hHash : tokenHash = tokenHash'
  · subst hHash
    rw [Function.update_self, Registry.openLink]
    cases hLink : links tokenHash with
    | none => simp
    | some link =>
        cases hOpen : link.open now <;> simp [hOpen, Option.filter]
  · rw [Function.update_of_ne hHash]
    simp [Ne.symm hHash]

theorem opens_consumeEmail {tokenHash tokenHash' : String} {owner : Option Uuid} :
    TokenKind.emailVerification.opens tokenHash
      ⟨.sql (.consumeEmailVerificationToken tokenHash'), .ok owner⟩ ↔
        tokenHash' = tokenHash ∧ owner.isSome = true := by
  cases owner <;> simp [TokenKind.opens]

theorem opens_consumeReset {tokenHash tokenHash' : String} {owner : Option Uuid} :
    TokenKind.passwordReset.opens tokenHash
      ⟨.sql (.consumePasswordResetToken tokenHash'), .ok owner⟩ ↔
        tokenHash' = tokenHash ∧ owner.isSome = true := by
  cases owner <;> simp [TokenKind.opens]

/-- A link that works was not opened and is in time. -/
theorem openLink_eq_some {links : String → Option Link} {now : OffsetDateTime} {tokenHash : String}
    {userId : Uuid} : (Registry.openLink links now tokenHash).map Link.owner = some userId ↔
      ∃ expiresAt, now < expiresAt ∧ Unopened links tokenHash userId expiresAt := by
  unfold Registry.openLink Unopened
  cases links tokenHash with
  | none => simp
  | some link =>
      rw [Option.filter_some]
      simp only [Link.open, Bool.and_eq_true, Option.isNone_iff_eq_none, decide_eq_true_eq,
        Option.map_some, Option.some.injEq, Prod.mk.injEq]
      split
      · next hOpen =>
          obtain ⟨hUnused, hTime⟩ := hOpen
          constructor
          · intro h
            exact ⟨link.expiresAt, hTime, Option.some.inj h, rfl, hUnused⟩
          · rintro ⟨_, _, rfl, _⟩
            rfl
      · next hShut =>
          simp only [Option.map_none, reduceCtorEq, false_iff]
          rintro ⟨_, hTime, rfl, rfl, hUnused⟩
          exact hShut ⟨hUnused, hTime⟩

/-- Owner and expiry of a link. -/
def opening (links : String → Option Link) (tokenHash : String) : Option (Uuid × OffsetDateTime) :=
  (links tokenHash).map fun link => (link.owner, link.expiresAt)

theorem opening_storeLink {links : String → Option Link} {tokenHash tokenHash' : String}
    {link : Link} {value : Uuid × OffsetDateTime} :
    opening (Registry.storeLink links tokenHash' link) tokenHash = some value ↔
      opening links tokenHash = some value ∨ opening links tokenHash = none ∧
        tokenHash' = tokenHash ∧ link.owner = value.1 ∧ link.expiresAt = value.2 := by
  unfold Registry.storeLink opening
  split
  · next hTaken =>
      refine ⟨.inl, Or.rec id ?_⟩
      rintro ⟨hNone, rfl, _⟩
      rw [Option.map_eq_none_iff.mp hNone] at hTaken
      cases hTaken
  · next hFree =>
      by_cases hHash : tokenHash = tokenHash'
      · subst hHash
        have hNone : links tokenHash = none := by simpa using hFree
        simp [hNone, Prod.ext_iff]
      · rw [Function.update_of_ne hHash]
        simp [Ne.symm hHash]

theorem opening_useLink {links : String → Option Link} {now : OffsetDateTime}
    {tokenHash tokenHash' : String} :
    opening (Registry.useLink links now tokenHash') tokenHash = opening links tokenHash := by
  unfold Registry.useLink opening
  by_cases hHash : tokenHash = tokenHash'
  · subst hHash
    rw [Function.update_self, Option.map_map]
    congr 1
    funext link
    simp only [Function.comp_apply]
    split <;> rfl
  · rw [Function.update_of_ne hHash]

section Steps

variable [External] {kind : TokenKind} {tokenHash : String} {draw : Draw}
    {before after : Registry} {op : Op} {reply : op.Reply}

/-- A link is new where there was none. -/
def TokenKind.storesNew (tokenHash : String) (userId : Uuid) (expiresAt : OffsetDateTime)
    (kind : TokenKind) (_ : Draw) (registry : Registry) (call : Call Op Op.Reply) : Prop :=
  kind.links registry tokenHash = none ∧ kind.stores tokenHash userId expiresAt call

theorem unopened_step {userId : Uuid} {expiresAt : OffsetDateTime}
    (step : Registry.Step draw before op reply after) :
    Unopened (kind.links after) tokenHash userId expiresAt ↔
      kind.storesNew tokenHash userId expiresAt draw before ⟨op, reply⟩ ∨
        Unopened (kind.links before) tokenHash userId expiresAt ∧
          ¬kind.opens tokenHash ⟨op, reply⟩ := by
  cases op with
  | sql statement =>
      cases reply with
      | error error =>
          obtain rfl := step.1
          cases kind <;> cases statement <;>
            simp [TokenKind.storesNew, TokenKind.stores, TokenKind.opens]
      | ok rows =>
          obtain ⟨_, does⟩ := step
          cases kind with
          | emailVerification =>
              have kept := does.frame.verification
              cases statement with
              | storeEmailVerificationToken userId' tokenHash' expiresAt' =>
                  obtain ⟨_, rfl⟩ := does
                  simpa [TokenKind.links, TokenKind.storesNew, TokenKind.stores, TokenKind.opens]
                    using unopened_storeLink rfl
              | consumeEmailVerificationToken tokenHash' =>
                  obtain ⟨rfl, rfl⟩ := does
                  simp only [TokenKind.storesNew, TokenKind.stores, and_false, false_or]
                  refine unopened_useLink.trans (and_congr Iff.rfl (not_congr ?_))
                  rw [← Option.isSome_map (f := Link.owner)]
                  exact opens_consumeEmail.symm
              | _ =>
                  simp [TokenKind.links, kept (by simp [Registry.written]), TokenKind.storesNew,
                    TokenKind.stores, TokenKind.opens]
          | passwordReset =>
              have kept := does.frame.reset
              cases statement with
              | storePasswordResetToken userId' tokenHash' expiresAt' =>
                  obtain ⟨_, rfl⟩ := does
                  simpa [TokenKind.links, TokenKind.storesNew, TokenKind.stores, TokenKind.opens]
                    using unopened_storeLink rfl
              | consumePasswordResetToken tokenHash' =>
                  obtain ⟨rfl, rfl⟩ := does
                  simp only [TokenKind.storesNew, TokenKind.stores, and_false, false_or]
                  refine unopened_useLink.trans (and_congr Iff.rfl (not_congr ?_))
                  rw [← Option.isSome_map (f := Link.owner)]
                  exact opens_consumeReset.symm
              | _ =>
                  simp [TokenKind.links, kept (by simp [Registry.written]), TokenKind.storesNew,
                    TokenKind.stores, TokenKind.opens]
  | _ =>
      obtain rfl := step
      cases kind <;> simp [TokenKind.storesNew, TokenKind.stores, TokenKind.opens]

/-- A link gets its owner and its expiry when it is stored, and keeps them. -/
theorem opening_links_step (step : Registry.Step draw before op reply after)
    (value : Uuid × OffsetDateTime) :
    opening (kind.links after) tokenHash = some value ↔
      opening (kind.links before) tokenHash = some value ∨
        opening (kind.links before) tokenHash = none ∧
          kind.stores tokenHash value.1 value.2 ⟨op, reply⟩ := by
  cases op with
  | sql statement =>
      cases reply with
      | error error =>
          obtain rfl := step.1
          cases kind <;> cases statement <;> simp [TokenKind.stores]
      | ok rows =>
          obtain ⟨_, does⟩ := step
          cases kind with
          | emailVerification =>
              have kept := does.frame.verification
              cases statement with
              | storeEmailVerificationToken userId' tokenHash' expiresAt' =>
                  obtain ⟨_, rfl⟩ := does
                  exact opening_storeLink
              | consumeEmailVerificationToken tokenHash' =>
                  obtain ⟨rfl, rfl⟩ := does
                  simp [TokenKind.links, TokenKind.stores, opening_useLink]
              | _ => simp [TokenKind.links, kept (by simp [Registry.written]), TokenKind.stores]
          | passwordReset =>
              have kept := does.frame.reset
              cases statement with
              | storePasswordResetToken userId' tokenHash' expiresAt' =>
                  obtain ⟨_, rfl⟩ := does
                  exact opening_storeLink
              | consumePasswordResetToken tokenHash' =>
                  obtain ⟨rfl, rfl⟩ := does
                  simp [TokenKind.links, TokenKind.stores, opening_useLink]
              | _ => simp [TokenKind.links, kept (by simp [Registry.written]), TokenKind.stores]
  | _ =>
      obtain rfl := step
      cases kind <;> simp [TokenKind.stores]

end Steps

/-! ### In the runs of the server -/

section Runs

variable [External] {state : AppState} {pool : ServerPool} {kind : TokenKind} {k l i : Nat}
    {draw : Draw} {tokenHash : String}

/-- Step `k` was a successful attempt of the statement that opens a link, whether or
not it found one. -/
def TokenKind.Tried (pool : ServerPool) (k i : Nat) (draw : Draw) (tokenHash : String)
    (found : Option Uuid) : TokenKind → Prop
  | .emailVerification =>
      pool.Executed answer k i draw (.sql (.consumeEmailVerificationToken tokenHash)) (.ok found)
  | .passwordReset =>
      pool.Executed answer k i draw (.sql (.consumePasswordResetToken tokenHash)) (.ok found)

theorem stored_of_stores {op : Op} {reply : op.Reply} {userId : Uuid} {expiresAt : OffsetDateTime}
    (step : pool.Executed answer k i draw op reply)
    (h : kind.stores tokenHash userId expiresAt ⟨op, reply⟩) :
    kind.Stored pool k i userId tokenHash expiresAt := by
  unfold TokenKind.stores at h
  split at h
  · next hCall =>
      obtain ⟨rfl, rfl, rfl⟩ := h
      exact ⟨draw, step.of_call hCall⟩
  · next hCall =>
      obtain ⟨rfl, rfl, rfl⟩ := h
      exact ⟨draw, step.of_call hCall⟩
  · cases h

theorem TokenKind.Stored.call {userId : Uuid} {expiresAt : OffsetDateTime}
    (stored : kind.Stored pool k i userId tokenHash expiresAt) :
    ∃ draw op reply, pool.Executed answer k i draw op reply ∧
      kind.stores tokenHash userId expiresAt ⟨op, reply⟩ := by
  cases kind with
  | emailVerification =>
      obtain ⟨draw, step⟩ := stored
      exact ⟨draw, _, _, step, rfl, rfl, rfl⟩
  | passwordReset =>
      obtain ⟨draw, step⟩ := stored
      exact ⟨draw, _, _, step, rfl, rfl, rfl⟩

theorem called_opens : pool.Called answer Db.registry k (fun _ _ => kind.opens tokenHash) ↔
    ∃ j draw userId, kind.Consumed pool k j draw tokenHash userId := by
  constructor
  · rintro ⟨j, draw, op, reply, step, h⟩
    unfold TokenKind.opens at h
    split at h
    · next hCall =>
        subst h
        exact ⟨j, draw, _, step.of_call hCall⟩
    · next hCall =>
        subst h
        exact ⟨j, draw, _, step.of_call hCall⟩
    · cases h
  · rintro ⟨j, draw, userId, consumed⟩
    cases kind with
    | emailVerification => exact ⟨j, draw, _, _, consumed, rfl⟩
    | passwordReset => exact ⟨j, draw, _, _, consumed, rfl⟩

theorem called_stores {userId : Uuid} {expiresAt : OffsetDateTime} :
    pool.Called answer Db.registry k (fun _ _ => kind.stores tokenHash userId expiresAt) ↔
      ∃ j, kind.Stored pool k j userId tokenHash expiresAt := by
  constructor
  · rintro ⟨j, draw, op, reply, step, hStores⟩
    exact ⟨j, stored_of_stores step hStores⟩
  · rintro ⟨j, stored⟩
    obtain ⟨draw, op, reply, step, hStores⟩ := stored.call
    exact ⟨j, draw, op, reply, step, hStores⟩

/-- A hash is free at a step exactly when no link was stored under it before. -/
theorem links_eq_none_iff (run : ServerRun state migrated pool) (l : Nat) :
    kind.links (pool.storeAt l).registry tokenHash = none ↔
      ∀ k < l, ∀ j userId expiresAt, ¬kind.Stored pool k j userId tokenHash expiresAt := by
  have unknown := (answer_refines.first run migrated_sound
    (fun registry => opening (kind.links registry) tokenHash)
    (fun value _ _ => kind.stores tokenHash value.1 value.2)
    (by rw [migrated_registry]; cases kind <;> rfl) (fun _ _ _ _ _ => opening_links_step) l).1
  simp only [opening, Option.map_eq_none_iff, called_stores, Prod.forall, not_exists] at unknown
  rw [unknown]
  constructor
  · intro h k hk j userId expiresAt
    exact h k hk userId expiresAt j
  · intro h k hk userId expiresAt j
    exact h k hk j userId expiresAt

theorem called_storesNew (run : ServerRun state migrated pool) {userId : Uuid}
    {expiresAt : OffsetDateTime} :
    pool.Called answer Db.registry k (kind.storesNew tokenHash userId expiresAt) ↔
      (∃ j, kind.Stored pool k j userId tokenHash expiresAt) ∧
        ∀ m < k, ∀ j userId' expiresAt', ¬kind.Stored pool m j userId' tokenHash expiresAt' := by
  rw [← links_eq_none_iff run]
  constructor
  · rintro ⟨j, draw, op, reply, step, hNone, hStores⟩
    exact ⟨⟨j, stored_of_stores step hStores⟩, hNone⟩
  · rintro ⟨⟨j, stored⟩, hNone⟩
    obtain ⟨draw, op, reply, step, hStores⟩ := stored.call
    exact ⟨j, draw, op, reply, step, hNone, hStores⟩

theorem TokenKind.Tried.found_eq (run : ServerRun state migrated pool) {found : Option Uuid}
    (tried : kind.Tried pool l i draw tokenHash found) :
    found = (Registry.openLink (kind.links (pool.storeAt l).registry) draw.dbNow tokenHash).map
      Link.owner := by
  cases kind with
  | emailVerification => exact (answer_refines.executed run migrated_sound tried).2.1
  | passwordReset => exact (answer_refines.executed run migrated_sound tried).2.1

/-- An attempt to open a link that does not fail finds its user exactly when the
link was stored for this user, is in time, and has not been opened since. Only the
first link that is stored under a hash counts. -/
theorem link_history (run : ServerRun state migrated pool) {found : Option Uuid}
    (tried : kind.Tried pool l i draw tokenHash found) (userId : Uuid) :
    found = some userId ↔ ∃ expiresAt, draw.dbNow < expiresAt ∧ ∃ k < l,
      (∃ j, kind.Stored pool k j userId tokenHash expiresAt) ∧
      (∀ m < k, ∀ j userId' expiresAt', ¬kind.Stored pool m j userId' tokenHash expiresAt') ∧
      ∀ m, k < m → m < l → ∀ j draw' userId',
        ¬kind.Consumed pool m j draw' tokenHash userId' := by
  rw [tried.found_eq run, openLink_eq_some]
  refine exists_congr fun expiresAt => and_congr Iff.rfl ?_
  have unopened := answer_refines.since run migrated_sound
    (fun registry => Unopened (kind.links registry) tokenHash userId expiresAt)
    (kind.storesNew tokenHash userId expiresAt) (fun _ _ => kind.opens tokenHash)
    (by rw [migrated_registry]; cases kind <;> simp [TokenKind.links, Registry.empty, Unopened])
    (fun _ _ _ _ _ => unopened_step) l
  simp only [unopened, called_storesNew run, and_assoc, called_opens, not_exists]

end Runs

section Example

attribute [local instance] reference

/-- The first of two resets with one token finds the link that the user had asked for. -/
theorem link_history_atOnce : ∃ (draw : Draw) (expiresAt : OffsetDateTime),
    draw.dbNow < expiresAt ∧ ∃ k < 20,
    (∃ j, TokenKind.passwordReset.Stored resetsAtOnce k j firstUser (External.sha256Hex resetToken)
      expiresAt) ∧
    (∀ m < k, ∀ j userId' expiresAt', ¬TokenKind.passwordReset.Stored resetsAtOnce m j userId'
      (External.sha256Hex resetToken) expiresAt') ∧
    ∀ m, k < m → m < 20 → ∀ j draw' userId', ¬TokenKind.passwordReset.Consumed resetsAtOnce m j
      draw' (External.sha256Hex resetToken) userId' := by
  have run : ServerRun exampleState migrated resetsAtOnce := Runs.play _
  obtain ⟨found, ⟨draw, tried⟩, hFound⟩ := run.did_of_didWith 20 2
    (.consumePasswordResetToken (External.sha256Hex resetToken)) (· == some firstUser)
    (by decide +kernel)
  obtain rfl := beq_iff_eq.mp hFound
  have consumed : TokenKind.passwordReset.Tried resetsAtOnce 20 2 draw
      (External.sha256Hex resetToken) (some firstUser) := tried
  exact ⟨draw, (link_history run consumed firstUser).mp rfl⟩

end Example

end GenericAuth
