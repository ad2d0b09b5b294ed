import GenericAuth.Auth.Credentials
import GenericAuth.Interaction.Refinement
import GenericAuth.Relational.Keyed

/-! What the database is for, without tables: accounts with a role and with
permissions of their own, sessions, one-time links and identities, each found by
its key. A statement does what is said here, or it fails and changes nothing. -/
namespace GenericAuth

open Interaction Relational

structure UserAccount where
  email : Option String
  displayName : Option String
  passwordHash : Option String
  role : Role
  isActive : Bool
  emailVerified : Bool
  createdAt : OffsetDateTime
  updatedAt : OffsetDateTime

structure UserSession where
  id : Uuid
  owner : Uuid
  issuedAt : OffsetDateTime
  expiresAt : OffsetDateTime
  revokedAt : Option OffsetDateTime
  userAgent : Option String

/-- A link that was mailed to its owner and works once. -/
structure Link where
  id : Uuid
  owner : Uuid
  expiresAt : OffsetDateTime
  usedAt : Option OffsetDateTime
  createdAt : OffsetDateTime

structure Identity where
  id : Uuid
  owner : Uuid
  email : Option String
  rawProfile : GoogleProfile
  createdAt : OffsetDateTime

/-- Sessions and links are found by the hash of their token, identities by
provider and subject, overrides by account and name of the permission. -/
structure Registry where
  account : Uuid → Option UserAccount
  session : String → Option UserSession
  verification : String → Option Link
  reset : String → Option Link
  identity : String × String → Option Identity
  override : Uuid × String → Option Bool

namespace Registry

def empty : Registry where
  account _ := none
  session _ := none
  verification _ := none
  reset _ := none
  identity _ := none
  override _ := none

/-- The permissions that can be given. -/
def catalogue : List String :=
  [Permission.usersRead.asStr, Permission.usersManage.asStr, Permission.usersAssignRoles.asStr]

/-- What a role permits by itself. -/
def grants : Role → String → Bool
  | .admin, name => catalogue.contains name
  | .moderator, name => name == Permission.usersRead.asStr
  | .user, _ => false

/-- An override decides; without one the role does. -/
def permits (registry : Registry) (userId : Uuid) (name : String) : Bool :=
  (registry.override (userId, name)).getD
    ((registry.account userId).any fun account => grants account.role name)

/-- The number under which statements refer to a role. -/
def number : Role → Nat
  | .admin => 1
  | .moderator => 2
  | .user => 3

/-! ### Answers to queries -/

end Registry

def UserAccount.columns (account : UserAccount) (id : Uuid) : UserColumns :=
  { id, email := account.email, displayName := account.displayName, isActive := account.isActive,
    emailVerified := account.emailVerified, createdAt := account.createdAt,
    updatedAt := account.updatedAt }

def UserAccount.record (account : UserAccount) (id : Uuid) : UserRecord :=
  { toUserColumns := account.columns id, roleName := account.role.asStr }

def UserAccount.secretRecord (account : UserAccount) (id : Uuid) : UserSecretRecord :=
  { toUserRecord := account.record id, passwordHash := account.passwordHash }

/-- A new account. -/
def UserAccount.opened (draw : Draw) (email passwordHash displayName : Option String) (role : Role)
    (emailVerified : Bool) : UserAccount :=
  { email, displayName, passwordHash, role, isActive := true, emailVerified,
    createdAt := draw.dbNow, updatedAt := draw.dbNow }

/-- The link still works. -/
def Link.open (link : Link) (now : OffsetDateTime) : Bool :=
  link.usedAt.isNone && decide (now < link.expiresAt)

namespace Registry

/-- All accounts, newest first; accounts of the same age come in any order. -/
structure Listing (registry : Registry) (records : List UserRecord) : Prop where
  newest : records.Pairwise fun first second => second.createdAt ≤ first.createdAt
  once : (records.map fun record => record.id).Nodup
  all : ∀ record, record ∈ records ↔
    ∃ account, registry.account record.id = some account ∧ record = account.record record.id

/-! ### Changes -/

def changeAccount (registry : Registry) (userId : Uuid) (change : UserAccount → UserAccount) :
    Registry :=
  { registry with
    account := Function.update registry.account userId ((registry.account userId).map change) }

def revoke (registry : Registry) (now : OffsetDateTime) (tokenHash : String) : Registry :=
  { registry with
    session := Function.update registry.session tokenHash
      ((registry.session tokenHash).map fun session => { session with revokedAt := some now }) }

def revokeAll (registry : Registry) (now : OffsetDateTime) (userId : Uuid) : Registry :=
  { registry with
    session := fun tokenHash => (registry.session tokenHash).map fun session =>
      if session.owner = userId ∧ session.revokedAt = none then
        { session with revokedAt := some now }
      else session }

/-- A link with a hash that is taken is dropped without an error. -/
def storeLink (links : String → Option Link) (tokenHash : String) (link : Link) :
    String → Option Link :=
  if (links tokenHash).isSome then links else Function.update links tokenHash (some link)

def openLink (links : String → Option Link) (now : OffsetDateTime) (tokenHash : String) :
    Option Link :=
  (links tokenHash).filter fun link => link.open now

/-- A link that does not work stays as it is. -/
def useLink (links : String → Option Link) (now : OffsetDateTime) (tokenHash : String) :
    String → Option Link :=
  Function.update links tokenHash ((links tokenHash).map fun link =>
    if link.open now then { link with usedAt := some now } else link)

variable [External]

/-- What a successful statement yields, and what it makes of the registry. -/
def Does (draw : Draw) (before : Registry) :
    (statement : Statement) → statement.Rows → Registry → Prop
  | .roleIdFor name, roleId, after => after = before ∧ roleId = (Role.parse name).map number
  | .findByEmail email, found, after => after = before ∧ ∀ record : UserSecretRecord,
      found = some record ↔ ∃ account, before.account record.id = some account ∧
        sameEmail account.email (some email) = true ∧ record = account.secretRecord record.id
  | .findById userId, found, after =>
      after = before ∧ found = (before.account userId).map fun account => account.record userId
  | .listUsers limit offset, page, after => after = before ∧ 0 ≤ limit ∧ 0 ≤ offset ∧
      ∃ records, before.Listing records ∧
        page = (records.drop offset.toInt.toNat).take limit.toInt.toNat
  | .permissionsFor userId, names, after =>
      after = before ∧ names.Nodup ∧ ∀ name, name ∈ names ↔ before.permits userId name = true
  | .findUserByOauth provider subject, found, after => after = before ∧
      found = (before.identity (provider, subject)).bind fun identity =>
        (before.account identity.owner).map fun account => account.record identity.owner
  | .lookupRefreshToken tokenHash, found, after => after = before ∧
      found = (before.session tokenHash).map fun session =>
        (session.owner, session.expiresAt, session.revokedAt)
  | .insertUser email passwordHash displayName roleId emailVerified, columns, after =>
      before.account draw.uuid = none ∧
      (∀ userId account, before.account userId = some account →
        sameEmail account.email email = false) ∧
      ∃ role, number role = roleId ∧
        columns = (UserAccount.opened draw email passwordHash displayName role
          emailVerified).columns draw.uuid ∧
        after = { before with
          account := Function.update before.account draw.uuid
            (some (.opened draw email passwordHash displayName role emailVerified)) }
  | .updateRole roleId userId, _, after =>
      match before.account userId with
      | none => after = before
      | some _ => ∃ role, number role = roleId ∧
          after = before.changeAccount userId fun account =>
            { account with role, updatedAt := draw.dbNow }
  | .updateActive isActive userId, _, after =>
      after = before.changeAccount userId fun account =>
        { account with isActive, updatedAt := draw.dbNow }
  | .markEmailVerified userId, _, after =>
      after = before.changeAccount userId fun account =>
        { account with emailVerified := true, updatedAt := draw.dbNow }
  | .updatePasswordHash passwordHash userId, _, after =>
      after = before.changeAccount userId fun account =>
        { account with passwordHash := some passwordHash, updatedAt := draw.dbNow }
  | .grantPermission userId name granted, _, after =>
      if name ∈ catalogue then (before.account userId).isSome ∧
        after = { before with
          override := Function.update before.override (userId, name) (some granted) }
      else after = before
  | .upsertOauthIdentity userId provider subject email rawProfile, _, after =>
      ∃ identity, (match before.identity (provider, subject) with
        | some bound => identity = { bound with email, rawProfile }
        | none => (before.account userId).isSome ∧
            identity = { id := draw.uuid, owner := userId, email, rawProfile,
                         createdAt := draw.dbNow }) ∧
        after = { before with
          identity := Function.update before.identity (provider, subject) (some identity) }
  | .storeRefreshToken userId tokenHash expiresAt userAgent, id, after =>
      id = draw.uuid ∧ (before.account userId).isSome ∧ before.session tokenHash = none ∧
      after = { before with
        session := Function.update before.session tokenHash (some
          { id := draw.uuid, owner := userId, issuedAt := draw.dbNow, expiresAt, revokedAt := none,
            userAgent }) }
  | .revokeRefreshToken tokenHash, _, after => after = before.revoke draw.dbNow tokenHash
  | .revokeAllRefreshTokens userId, _, after => after = before.revokeAll draw.dbNow userId
  | .storeEmailVerificationToken userId tokenHash expiresAt, _, after =>
      ((before.verification tokenHash).isNone → (before.account userId).isSome) ∧
      after = { before with
        verification := storeLink before.verification tokenHash
          { id := draw.uuid, owner := userId, expiresAt, usedAt := none,
            createdAt := draw.dbNow } }
  | .consumeEmailVerificationToken tokenHash, owner, after =>
      owner = (openLink before.verification draw.dbNow tokenHash).map Link.owner ∧
      after = { before with verification := useLink before.verification draw.dbNow tokenHash }
  | .storePasswordResetToken userId tokenHash expiresAt, _, after =>
      ((before.reset tokenHash).isNone → (before.account userId).isSome) ∧
      after = { before with
        reset := storeLink before.reset tokenHash
          { id := draw.uuid, owner := userId, expiresAt, usedAt := none,
            createdAt := draw.dbNow } }
  | .consumePasswordResetToken tokenHash, owner, after =>
      owner = (openLink before.reset draw.dbNow tokenHash).map Link.owner ∧
      after = { before with reset := useLink before.reset draw.dbNow tokenHash }

/-- Why a statement is refused: a key is taken, an address belongs to somebody,
what it refers to does not exist, or a page has no position. -/
def Refuses (draw : Draw) (before : Registry) : Statement → Prop
  | .insertUser email _ _ roleId _ => (before.account draw.uuid).isSome ∨
      (∃ userId account, before.account userId = some account ∧
        sameEmail account.email email = true) ∨ ∀ role, number role ≠ roleId
  | .updateRole roleId userId => (before.account userId).isSome ∧ ∀ role, number role ≠ roleId
  | .listUsers limit offset => limit < 0 ∨ offset < 0
  | .grantPermission userId name _ => name ∈ catalogue ∧ before.account userId = none
  | .upsertOauthIdentity userId provider subject _ _ =>
      before.identity (provider, subject) = none ∧ (before.account userId = none ∨
        ∃ key identity, before.identity key = some identity ∧ identity.id = draw.uuid)
  | .storeRefreshToken userId tokenHash _ _ => before.account userId = none ∨
      (before.session tokenHash).isSome ∨
      ∃ key session, before.session key = some session ∧ session.id = draw.uuid
  | .storeEmailVerificationToken userId tokenHash _ =>
      before.verification tokenHash = none ∧ (before.account userId = none ∨
        ∃ key link, before.verification key = some link ∧ link.id = draw.uuid)
  | .storePasswordResetToken userId tokenHash _ =>
      before.reset tokenHash = none ∧ (before.account userId = none ∨
        ∃ key link, before.reset key = some link ∧ link.id = draw.uuid)
  | _ => False

/-- A statement fails for a reason of its own or from outside, and then nothing
has changed. Operations other than statements never touch the registry. -/
def Step : Behaviour Registry Draw Op Op.Reply
  | draw, before, .sql statement, reply, after =>
      match reply with
      | .ok rows => draw.fault = none ∧ before.Does draw statement rows after
      | .error _ => after = before ∧ (draw.fault.isSome ∨ before.Refuses draw statement)
  | _, before, _, _, after => after = before

/-! ### Frames -/

/-- The maps of a registry. -/
inductive Part where
  | accounts
  | sessions
  | verifications
  | resets
  | identities
  | overrides
  deriving DecidableEq

omit [External] in
/-- The map that an operation writes. -/
def written : Op → Option Part
  | .sql (.insertUser ..) | .sql (.updateRole ..) | .sql (.updateActive ..)
  | .sql (.markEmailVerified _) | .sql (.updatePasswordHash ..) => some .accounts
  | .sql (.storeRefreshToken ..) | .sql (.revokeRefreshToken _)
  | .sql (.revokeAllRefreshTokens _) => some .sessions
  | .sql (.storeEmailVerificationToken ..) | .sql (.consumeEmailVerificationToken _) =>
      some .verifications
  | .sql (.storePasswordResetToken ..) | .sql (.consumePasswordResetToken _) => some .resets
  | .sql (.upsertOauthIdentity ..) => some .identities
  | .sql (.grantPermission ..) => some .overrides
  | _ => none

/-- Only this map differs. -/
structure Frame (part : Option Part) (before after : Registry) : Prop where
  account : part ≠ some .accounts → after.account = before.account
  session : part ≠ some .sessions → after.session = before.session
  verification : part ≠ some .verifications → after.verification = before.verification
  reset : part ≠ some .resets → after.reset = before.reset
  identity : part ≠ some .identities → after.identity = before.identity
  override : part ≠ some .overrides → after.override = before.override

omit [External] in
theorem Frame.refl (part : Option Part) (registry : Registry) : Frame part registry registry :=
  ⟨fun _ => rfl, fun _ => rfl, fun _ => rfl, fun _ => rfl, fun _ => rfl, fun _ => rfl⟩

omit [External] in
theorem frame_accounts (registry : Registry) (account : Uuid → Option UserAccount) :
    Frame (some .accounts) registry { registry with account } :=
  { Frame.refl (some .accounts) registry with account := fun h => absurd rfl h }

omit [External] in
theorem frame_sessions (registry : Registry) (session : String → Option UserSession) :
    Frame (some .sessions) registry { registry with session } :=
  { Frame.refl (some .sessions) registry with session := fun h => absurd rfl h }

theorem Does.frame {draw : Draw} {before after : Registry} {statement : Statement}
    {rows : statement.Rows} (does : before.Does draw statement rows after) :
    Frame (written (.sql statement)) before after := by
  cases statement with
  | roleIdFor | findByEmail | findById | permissionsFor | findUserByOauth | lookupRefreshToken
  | listUsers => exact does.1 ▸ .refl _ _
  | insertUser =>
      obtain ⟨_, _, _, _, _, rfl⟩ := does
      exact frame_accounts _ _
  | updateRole =>
      simp only [Does] at does
      split at does
      · exact does ▸ .refl _ _
      · obtain ⟨_, _, rfl⟩ := does
        exact frame_accounts _ _
  | updateActive | markEmailVerified | updatePasswordHash =>
      obtain rfl := does
      exact frame_accounts _ _
  | grantPermission =>
      simp only [Does] at does
      split at does
      · obtain ⟨_, rfl⟩ := does
        exact { Frame.refl _ _ with override := fun h => absurd rfl h }
      · exact does ▸ .refl _ _
  | upsertOauthIdentity =>
      obtain ⟨_, _, rfl⟩ := does
      exact { Frame.refl _ _ with identity := fun h => absurd rfl h }
  | storeRefreshToken =>
      obtain ⟨_, _, _, rfl⟩ := does
      exact frame_sessions _ _
  | revokeRefreshToken | revokeAllRefreshTokens =>
      obtain rfl := does
      exact frame_sessions _ _
  | storeEmailVerificationToken | consumeEmailVerificationToken =>
      obtain ⟨_, rfl⟩ := does
      exact { Frame.refl _ _ with verification := fun h => absurd rfl h }
  | storePasswordResetToken | consumePasswordResetToken =>
      obtain ⟨_, rfl⟩ := does
      exact { Frame.refl _ _ with reset := fun h => absurd rfl h }

theorem Step.frame {draw : Draw} {before after : Registry} {op : Op} {reply : op.Reply}
    (step : Step draw before op reply after) : Frame (written op) before after := by
  cases op with
  | sql statement =>
      cases reply with
      | ok rows => exact step.2.frame
      | error error => exact step.1 ▸ .refl _ _
  | _ => exact step ▸ .refl _ _

/-! ### Soundness -/

/-- An address belongs to one account at most, whoever is referred to exists, and
only known permissions are overridden. -/
structure Sound (registry : Registry) : Prop where
  emails : ∀ userId userId' account account', registry.account userId = some account →
    registry.account userId' = some account' →
    sameEmail account.email account'.email = true → userId = userId'
  sessions : ∀ tokenHash session, registry.session tokenHash = some session →
    (registry.account session.owner).isSome
  verifications : ∀ tokenHash link, registry.verification tokenHash = some link →
    (registry.account link.owner).isSome
  resets : ∀ tokenHash link, registry.reset tokenHash = some link →
    (registry.account link.owner).isSome
  identities : ∀ key identity, registry.identity key = some identity →
    (registry.account identity.owner).isSome
  overrides : ∀ userId name granted, registry.override (userId, name) = some granted →
    (registry.account userId).isSome ∧ name ∈ catalogue

theorem empty_sound : empty.Sound := by
  constructor <;> simp [empty]

section Sound

variable {registry : Registry}

/-- Accounts may be added and changed, as long as addresses stay unique. -/
theorem Sound.accounts (sound : registry.Sound) {account : Uuid → Option UserAccount}
    (kept : ∀ userId, (registry.account userId).isSome → (account userId).isSome)
    (emails : ∀ userId userId' first second, account userId = some first →
      account userId' = some second → sameEmail first.email second.email = true →
        userId = userId') : ({ registry with account } : Registry).Sound where
  emails := emails
  sessions tokenHash session h := kept _ (sound.sessions tokenHash session h)
  verifications tokenHash link h := kept _ (sound.verifications tokenHash link h)
  resets tokenHash link h := kept _ (sound.resets tokenHash link h)
  identities key identity h := kept _ (sound.identities key identity h)
  overrides userId name granted h :=
    (sound.overrides userId name granted h).imp_left (kept userId)

omit [External] in
/-- An account after a change is an account before it, with the same address. -/
theorem of_changeAccount {userId other : Uuid} {change : UserAccount → UserAccount}
    {account : UserAccount}
    (hEmail : ∀ account, (change account).email = account.email)
    (h : (registry.changeAccount userId change).account other = some account) :
    ∃ old, registry.account other = some old ∧ account.email = old.email := by
  rcases of_update h with ⟨rfl, hChanged⟩ | ⟨_, hOld⟩
  · obtain ⟨old, hOld, rfl⟩ := Option.map_eq_some_iff.mp hChanged
    exact ⟨old, hOld, hEmail old⟩
  · exact ⟨account, hOld, rfl⟩

theorem Sound.changeAccount (sound : registry.Sound) {userId : Uuid}
    {change : UserAccount → UserAccount} (hEmail : ∀ account, (change account).email = account.email) :
    (registry.changeAccount userId change).Sound := by
  apply sound.accounts
  · intro other h
    exact update_isSome (fun hSome => by rwa [Option.isSome_map]) h
  · intro first second account account' h h' hSame
    obtain ⟨old, hOld, hKept⟩ := of_changeAccount hEmail h
    obtain ⟨old', hOld', hKept'⟩ := of_changeAccount hEmail h'
    rw [hKept, hKept'] at hSame
    exact sound.emails first second old old' hOld hOld' hSame

/-- A new account has an address that nobody has. -/
theorem Sound.insert (sound : registry.Sound) {userId : Uuid} {account : UserAccount}
    (hFree : ∀ other stored, registry.account other = some stored →
      sameEmail stored.email account.email = false) :
    ({ registry with account := Function.update registry.account userId (some account) } :
      Registry).Sound := by
  apply sound.accounts
  · intro other h
    exact update_isSome (fun _ => rfl) h
  · intro first second stored stored' h h' hSame
    rcases of_update h with ⟨rfl, hNew⟩ | ⟨_, hOld⟩ <;>
      rcases of_update h' with ⟨rfl, hNew'⟩ | ⟨_, hOld'⟩
    · rfl
    · rw [← Option.some.inj hNew, sameEmail_comm, hFree second stored' hOld'] at hSame
      cases hSame
    · rw [← Option.some.inj hNew', hFree first stored hOld] at hSame
      cases hSame
    · exact sound.emails first second stored stored' hOld hOld' hSame

omit [External] in
/-- The owner of a link after a use owned it before. -/
theorem of_useLink {links : String → Option Link} {now : OffsetDateTime} {tokenHash other : String}
    {link : Link} (h : useLink links now tokenHash other = some link) :
    ∃ old, links other = some old ∧ old.owner = link.owner := by
  rcases of_update h with ⟨rfl, hUsed⟩ | ⟨_, hOld⟩
  · obtain ⟨old, hOld, rfl⟩ := Option.map_eq_some_iff.mp hUsed
    refine ⟨old, hOld, ?_⟩
    split <;> rfl
  · exact ⟨link, hOld, rfl⟩

omit [External] in
theorem of_storeLink {links : String → Option Link} {tokenHash other : String} {link found : Link}
    (h : storeLink links tokenHash link other = some found) :
    links other = some found ∨ (links tokenHash).isNone = true ∧ found = link := by
  unfold storeLink at h
  split at h
  · exact .inl h
  · next hFree =>
      rcases of_update h with ⟨_, hNew⟩ | ⟨_, hOld⟩
      · exact .inr ⟨by simpa using hFree, (Option.some.inj hNew).symm⟩
      · exact .inl hOld

/-- No statement makes a sound registry unsound. -/
theorem Sound.does {draw : Draw} {before after : Registry} {statement : Statement}
    {rows : statement.Rows} (sound : before.Sound) (does : before.Does draw statement rows after) :
    after.Sound := by
  cases statement with
  | roleIdFor | findByEmail | findById | permissionsFor | findUserByOauth | lookupRefreshToken
  | listUsers => exact does.1 ▸ sound
  | insertUser =>
      obtain ⟨_, hFree, role, _, _, rfl⟩ := does
      exact sound.insert hFree
  | updateRole roleId userId =>
      simp only [Does] at does
      split at does
      · exact does ▸ sound
      · obtain ⟨role, _, rfl⟩ := does
        exact sound.changeAccount fun _ => rfl
  | updateActive | markEmailVerified | updatePasswordHash =>
      obtain rfl := does
      exact sound.changeAccount fun _ => rfl
  | grantPermission userId name granted =>
      simp only [Does] at does
      split at does
      · next hKnown =>
          obtain ⟨hUser, rfl⟩ := does
          refine { sound with overrides := fun other name' granted' h => ?_ }
          rcases of_update h with ⟨hKey, _⟩ | ⟨_, hOld⟩
          · obtain ⟨rfl, rfl⟩ := Prod.mk.inj hKey
            exact ⟨hUser, hKnown⟩
          · exact sound.overrides other name' granted' hOld
      · exact does ▸ sound
  | upsertOauthIdentity userId provider subject email rawProfile =>
      obtain ⟨identity, hIdentity, rfl⟩ := does
      refine { sound with identities := fun key found h => ?_ }
      rcases of_update h with ⟨rfl, hNew⟩ | ⟨_, hOld⟩
      · obtain rfl := Option.some.inj hNew
        split at hIdentity
        · next bound hBound =>
            subst hIdentity
            exact sound.identities _ bound hBound
        · obtain ⟨hUser, rfl⟩ := hIdentity
          exact hUser
      · exact sound.identities key found hOld
  | storeRefreshToken =>
      obtain ⟨_, hUser, _, rfl⟩ := does
      refine { sound with sessions := fun tokenHash session h => ?_ }
      rcases of_update h with ⟨rfl, hNew⟩ | ⟨_, hOld⟩
      · exact Option.some.inj hNew ▸ hUser
      · exact sound.sessions tokenHash session hOld
  | revokeRefreshToken =>
      obtain rfl := does
      refine { sound with sessions := fun tokenHash session h => ?_ }
      rcases of_update h with ⟨rfl, hRevoked⟩ | ⟨_, hOld⟩
      · obtain ⟨old, hOld, rfl⟩ := Option.map_eq_some_iff.mp hRevoked
        exact sound.sessions _ old hOld
      · exact sound.sessions tokenHash session hOld
  | revokeAllRefreshTokens =>
      obtain rfl := does
      refine { sound with sessions := fun tokenHash session h => ?_ }
      obtain ⟨old, hOld, rfl⟩ := Option.map_eq_some_iff.mp h
      have hUser := sound.sessions tokenHash old hOld
      split <;> exact hUser
  | storeEmailVerificationToken =>
      obtain ⟨hUser, rfl⟩ := does
      refine { sound with verifications := fun tokenHash link h => ?_ }
      rcases of_storeLink h with hOld | ⟨hFree, rfl⟩
      · exact sound.verifications tokenHash link hOld
      · exact hUser hFree
  | consumeEmailVerificationToken =>
      obtain ⟨_, rfl⟩ := does
      refine { sound with verifications := fun tokenHash link h => ?_ }
      obtain ⟨old, hOld, hOwner⟩ := of_useLink h
      exact hOwner ▸ sound.verifications tokenHash old hOld
  | storePasswordResetToken =>
      obtain ⟨hUser, rfl⟩ := does
      refine { sound with resets := fun tokenHash link h => ?_ }
      rcases of_storeLink h with hOld | ⟨hFree, rfl⟩
      · exact sound.resets tokenHash link hOld
      · exact hUser hFree
  | consumePasswordResetToken =>
      obtain ⟨_, rfl⟩ := does
      refine { sound with resets := fun tokenHash link h => ?_ }
      obtain ⟨old, hOld, hOwner⟩ := of_useLink h
      exact hOwner ▸ sound.resets tokenHash old hOld

theorem Sound.step {draw : Draw} {before after : Registry} {op : Op} {reply : op.Reply}
    (sound : before.Sound) (step : Step draw before op reply after) : after.Sound := by
  cases op with
  | sql statement =>
      cases reply with
      | ok rows => exact sound.does step.2
      | error error => exact step.1 ▸ sound
  | _ => exact step ▸ sound

end Sound

end Registry
end GenericAuth
