import YoAuthorize.Lib.FileRead
import YoAuthorize.Service.Serviceability

/-!
# The files of the service

`loadRawKey` (`key_store.cpp`) and `readLicense` (`service.cpp`) over the calls that
they make on a file, and what the files of a service that has started held: its
private key was closed to others, each trusted key stood in the file that is
configured for it, and one of these keys has signed the license.
-/

namespace YoAuthorize.Service

open Octets Crypto FlatBuffer License YoAuthorize.Core
open FileRead (File Stat readAll)

def ELOOP : Int := 40

/-- `S_IRWXG | S_IRWXO`. -/
def othersMask : UInt32 := 0o077

/-- Neither loop tries a failed `read` again. -/
def never (_ : Int) : Bool := false

def loadRawKey (file : File) (privateKey : Bool) : Except KeyStoreError Key :=
  match file.opened with
  | .error error => .error (if error = ELOOP then .invalidFile else .openFailed)
  | .ok () =>
      match file.stat with
      | none => .error .invalidFile
      | some info =>
          if !info.isRegular then .error .invalidFile
          else if privateKey ∧ info.mode &&& othersMask ≠ 0 then .error .invalidPermissions
          else if info.size ≠ kKeySize then .error .invalidSize
          else
            match readAll never file kKeySize with
            | none => .error .invalidFile
            | some key => .ok key

/-- `readLicense`, for which every failure is `LicenseFile`. -/
def readLicense (file : File) : Option Bytes :=
  match file.opened with
  | .error _ => none
  | .ok () =>
      match file.stat with
      | none => none
      | some info =>
          if !info.isRegular ∨ info.size ≤ 0 ∨ info.size > kMaxLicenseSize then none
          else (readAll never file info.size.toNat).map Subtype.val

/-- A machine with these files. -/
def Platform.withFiles (platform : Platform) (files : Bytes → File) : Platform :=
  { platform with
    loadRawKey := fun path privateKey => Service.loadRawKey (files path) privateKey
    readLicense := fun path => Service.readLicense (files path) }

@[simp] theorem Platform.withFiles_loadRawKey (platform : Platform) (files : Bytes → File)
    (path : Bytes) (privateKey : Bool) :
    (platform.withFiles files).loadRawKey path privateKey =
      Service.loadRawKey (files path) privateKey :=
  rfl

/-! ## What a read file has held -/

/-- The regular file at a path has been read to this size. -/
structure Held (file : File) (info : Stat) (bytes : Bytes) : Prop where
  opened : file.opened = .ok ()
  stat : file.stat = some info
  isRegular : info.isRegular = true
  size : info.size = bytes.length
  content : bytes = file.content.take bytes.length

theorem held_of_loadRawKey {file : File} {privateKey : Bool} {key : Key}
    (loaded : loadRawKey file privateKey = .ok key) :
    ∃ info, Held file info key.val ∧ (privateKey = true → info.mode &&& othersMask = 0) := by
  unfold loadRawKey at loaded
  split at loaded
  · cases loaded
  rename_i opened
  split at loaded
  · cases loaded
  rename_i info stat
  split at loaded
  · cases loaded
  rename_i regular
  split at loaded
  · cases loaded
  rename_i closed
  split at loaded
  · cases loaded
  rename_i size
  split at loaded
  · cases loaded
  · rename_i read reads
    cases loaded
    refine ⟨info, ⟨opened, stat, by simpa using regular, ?_, ?_⟩, fun isPrivate => ?_⟩
    · rw [key.2]
      exact not_not.mp size
    · rw [key.2]
      exact FileRead.readAll_eq_some reads
    · by_contra shared
      exact closed ⟨isPrivate, shared⟩

theorem held_of_readLicense {file : File} {package : Bytes}
    (reads : readLicense file = some package) :
    ∃ info, Held file info package ∧ 0 < package.length ∧ package.length ≤ kMaxLicenseSize := by
  unfold readLicense at reads
  split at reads
  · cases reads
  rename_i opened
  split at reads
  · cases reads
  rename_i info stat
  split at reads
  · cases reads
  rename_i fits
  obtain ⟨bytes, read, rfl⟩ := Option.map_eq_some_iff.mp reads
  have regular : info.isRegular = true := by
    cases same : info.isRegular with
    | true => rfl
    | false => exact absurd (.inl (by rw [same]; rfl)) fits
  have positive : 0 < info.size := by
    by_contra low
    exact fits (.inr (.inl (by omega)))
  have short : info.size ≤ kMaxLicenseSize := by
    by_contra high
    exact fits (.inr (.inr (by omega)))
  refine ⟨info, ⟨opened, stat, regular, ?_, ?_⟩, ?_, ?_⟩
  · rw [bytes.2]
    omega
  · rw [bytes.2]
    exact FileRead.readAll_eq_some read
  · rw [bytes.2]
    omega
  · rw [bytes.2]
    omega

/-! ## The keys -/

section

variable {platform : Platform}

/-- Each key in the table comes from the file that is configured under its id. -/
theorem loadLicenseKeys_eq_ok {configs : List TrustKeyConfig}
    {keys later : AList fun _ : Bytes => Key}
    (loaded : loadLicenseKeys platform keys configs = .ok later) :
    (configs.map TrustKeyConfig.id).Nodup ∧ (∀ config ∈ configs, config.id ∉ keys) ∧
      ∀ id key, later.lookup id = some key ↔ keys.lookup id = some key ∨
        ∃ config ∈ configs, config.id = id ∧
          platform.loadRawKey config.publicKeyPath false = .ok key := by
  induction configs generalizing keys with
  | nil =>
      cases loaded
      refine ⟨List.nodup_nil, List.forall_mem_nil _, fun id key => ?_⟩
      constructor
      · exact .inl
      · rintro (present | ⟨config, mem, -⟩)
        · exact present
        · cases mem
  | cons config configs ih =>
      unfold loadLicenseKeys at loaded
      split at loaded
      · cases loaded
      rename_i publicKey reads
      split at loaded
      · cases loaded
      rename_i new
      obtain ⟨nodup, fresh, lookup⟩ := ih loaded
      have apart : config.id ∉ configs.map TrustKeyConfig.id := by
        intro mem
        obtain ⟨other, there, same⟩ := List.mem_map.mp mem
        exact fresh other there (AList.mem_insert keys |>.mpr (.inl same))
      refine ⟨List.nodup_cons.mpr ⟨apart, nodup⟩, ?_, fun id key => ?_⟩
      · intro other mem
        rcases List.mem_cons.mp mem with rfl | mem
        · exact new
        · exact fun present => fresh other mem (AList.mem_insert keys |>.mpr (.inr present))
      rw [lookup]
      by_cases same : id = config.id
      · subst same
        have absent : keys.lookup config.id = none := AList.lookup_eq_none.mpr new
        rw [AList.lookup_insert, absent]
        constructor
        · rintro (here | ⟨other, mem, same, -⟩)
          · cases here
            exact .inr ⟨config, List.mem_cons_self, rfl, reads⟩
          · exact absurd (List.mem_map.mpr ⟨other, mem, same⟩) apart
        · rintro (nothing | ⟨other, mem, same, found⟩)
          · cases nothing
          rcases List.mem_cons.mp mem with rfl | mem
          · rw [reads] at found
            cases found
            exact .inl rfl
          · exact absurd (List.mem_map.mpr ⟨other, mem, same⟩) apart
      · rw [AList.lookup_insert_ne same]
        refine or_congr_right ⟨?_, ?_⟩
        · rintro ⟨other, mem, found⟩
          exact ⟨other, List.mem_cons_of_mem _ mem, found⟩
        · rintro ⟨other, mem, here, found⟩
          rcases List.mem_cons.mp mem with rfl | mem
          · exact absurd here.symm same
          · exact ⟨other, mem, here, found⟩

end

theorem loadRawKey_of_loadLicenseKeys {configs : List TrustKeyConfig}
    {keys later : AList fun _ : Bytes => Key}
    (loaded : loadLicenseKeys platform keys configs = .ok later) {config : TrustKeyConfig}
    (mem : config ∈ configs) : ∃ key, platform.loadRawKey config.publicKeyPath false = .ok key := by
  induction configs generalizing keys with
  | nil => cases mem
  | cons first configs ih =>
      unfold loadLicenseKeys at loaded
      split at loaded
      · cases loaded
      rename_i publicKey reads
      split at loaded
      · cases loaded
      rcases List.mem_cons.mp mem with rfl | mem
      · exact ⟨publicKey, reads⟩
      · exact ih loaded mem

theorem loadKeys_eq_ok {config : ServiceConfig} {keys : LoadedKeys}
    (loaded : loadKeys platform config = .ok keys) :
    platform.loadRawKey config.identityPrivateKeyPath true = .ok keys.identityPrivateKey ∧
      loadLicenseKeys platform ∅ config.licenseKeys = .ok keys.licensePublicKeys := by
  unfold loadKeys at loaded
  split at loaded
  · cases loaded
  rename_i identity loadsIdentity
  split at loaded
  · cases loaded
  · rename_i licenseKeys loadsLicenseKeys
    cases loaded
    exact ⟨loadsIdentity, loadsLicenseKeys⟩

theorem loadLicenseKeys_congr {other : Platform} {configs : List TrustKeyConfig}
    {keys : AList fun _ : Bytes => Key}
    (agree : ∀ config ∈ configs,
      platform.loadRawKey config.publicKeyPath false =
        other.loadRawKey config.publicKeyPath false) :
    loadLicenseKeys platform keys configs = loadLicenseKeys other keys configs := by
  induction configs generalizing keys with
  | nil => rfl
  | cons config configs ih =>
      have first := agree config List.mem_cons_self
      have rest := fun keys => @ih keys fun later mem =>
        agree later (List.mem_cons_of_mem config mem)
      simp only [loadLicenseKeys, first, rest]

/-- Nothing but the configured files counts. -/
theorem loadKeys_congr {other : Platform} {config : ServiceConfig}
    (identity : platform.loadRawKey config.identityPrivateKeyPath true =
      other.loadRawKey config.identityPrivateKeyPath true)
    (licenses : ∀ entry ∈ config.licenseKeys,
      platform.loadRawKey entry.publicKeyPath false = other.loadRawKey entry.publicKeyPath false) :
    loadKeys platform config = loadKeys other config := by
  unfold loadKeys
  rw [identity, loadLicenseKeys_congr licenses]

/-- A file has held one key at most. -/
theorem Held.eq {file : File} {info other : Stat} {key peer : Key} (held : Held file info key.val)
    (also : Held file other peer.val) : key = peer := by
  apply Subtype.ext
  rw [held.content, also.content, key.2, peer.2]

/-! ## A service that has started -/

/-- Where the keys and the license of a service come from. -/
structure Provenance (packages : Binding (LicensePackage Bytes)) (ssl : OpenSsl)
    (files : Bytes → File) (service : AuthorizationService) : Prop where
  /-- The private key is in a file that only its owner can open. -/
  identity : ∃ info, Held (files service.config.identityPrivateKeyPath) info
    service.keys.identityPrivateKey.val ∧ info.mode &&& othersMask = 0
  distinct : (service.config.licenseKeys.map TrustKeyConfig.id).Nodup
  /-- The trusted keys are those in the configured files. -/
  trusted : ∀ id key, service.keys.licensePublicKeys.lookup id = some key ↔
    ∃ config ∈ service.config.licenseKeys, config.id = id ∧
      ∃ info, Held (files config.publicKeyPath) info key.val
  /-- One of them has signed the license. -/
  signed : ∃ package info, Held (files service.config.licensePath) info package ∧
    LicenseValidator.Signed packages ssl
      { trustedKeys := fun id => service.keys.licensePublicKeys.lookup id } package

theorem provenance_of_create {packages : Binding (LicensePackage Bytes)}
    {payloads : Binding (LicensePayload Bytes)} {ssl : OpenSsl} {platform : Platform}
    {files : Bytes → File} {service : AuthorizationService}
    (created : AuthorizationService.create packages payloads ssl (platform.withFiles files) =
      .ok service) : Provenance packages ssl files service := by
  obtain ⟨_, package, -, loadsKeys, -, reads, validates⟩ :=
    AuthorizationService.create_eq_ok_iff.mp created
  obtain ⟨loadsIdentity, loadsLicenseKeys⟩ := loadKeys_eq_ok loadsKeys
  obtain ⟨nodup, -, lookup⟩ := loadLicenseKeys_eq_ok loadsLicenseKeys
  obtain ⟨info, held, closed⟩ := held_of_loadRawKey loadsIdentity
  obtain ⟨packageInfo, packageHeld, -, -⟩ := held_of_readLicense reads
  refine ⟨⟨info, held, closed rfl⟩, nodup, fun id key => ?_, package, packageInfo, packageHeld, ?_⟩
  · rw [lookup]
    constructor
    · rintro (nothing | ⟨entry, mem, same, loaded⟩)
      · cases nothing
      · obtain ⟨keyInfo, keyHeld, -⟩ := held_of_loadRawKey loaded
        exact ⟨entry, mem, same, keyInfo, keyHeld⟩
    · rintro ⟨entry, mem, same, keyInfo, keyHeld⟩
      obtain ⟨loadedKey, loaded⟩ := loadRawKey_of_loadLicenseKeys loadsLicenseKeys mem
      obtain ⟨otherInfo, otherHeld, -⟩ := held_of_loadRawKey loaded
      exact .inr ⟨entry, mem, same, otherHeld.eq keyHeld ▸ loaded⟩
  · exact LicenseValidator.signed_of_validate validates fun _ same => by cases same

/-! ## Files of the reference service -/

/-- A regular file of this content, which is delivered a byte at a time. -/
def regularFile (content : Bytes) : File where
  stat := some { isRegular := true, mode := 0o600, size := content.length }
  content := content
  reads := List.replicate content.length (.ok 1)

theorem readAll_regularFile {retried : Int → Bool} (content : Bytes) :
    ∃ bytes, readAll retried (regularFile content) content.length = some bytes ∧
      bytes.val = content := by
  have delivers : ∀ count, .ok count ∈ (regularFile content).reads → 0 < count := by
    intro count mem
    cases (List.mem_replicate.mp mem).2
    decide
  have retries : ∀ error, .error error ∈ (regularFile content).reads → retried error = true := by
    intro error mem
    cases (List.mem_replicate.mp mem).2
  have enough : content.length ≤ (regularFile content).reads.countP Except.isOk := by
    rw [regularFile, List.countP_replicate]
    exact le_refl _
  obtain ⟨bytes, reads, whole⟩ := FileRead.readAll_of_enough (le_refl _) delivers retries enough
  exact ⟨bytes, reads, whole.trans List.take_length⟩

theorem readLicense_regularFile {package : Bytes} (present : package ≠ [])
    (small : package.length ≤ kMaxLicenseSize) :
    readLicense (regularFile package) = some package := by
  have positive := List.length_pos_iff.mpr present
  have fits : ¬ ((!true) = true ∨ (package.length : Int) ≤ 0 ∨
      (package.length : Int) > kMaxLicenseSize) := by
    simp only [Bool.not_true, Bool.false_eq_true, false_or, not_or]
    omega
  obtain ⟨bytes, reads, whole⟩ : ∃ bytes, readAll never (regularFile package) package.length =
      some bytes ∧ bytes.val = package := readAll_regularFile package
  unfold readLicense
  change (if _ then _ else (readAll never (regularFile package)
    ((package.length : Int)).toNat).map Subtype.val) = _
  rw [if_neg fits, Int.toNat_natCast, reads, Option.map_some, whole]

theorem size_of_readPackage {packages : Binding (LicensePackage Bytes)} {package : Bytes}
    {outer : SignedPayload} (read : readPackage packages package = .ok outer) :
    package ≠ [] ∧ package.length ≤ kMaxLicenseSize := by
  unfold readPackage at read
  split at read
  · cases read
  · rename_i fits
    exact ⟨fun empty => fits (.inl empty), not_lt.mp fun large => fits (.inr (.inl large))⟩

def referenceFiles (package path : Bytes) : File :=
  if path = referenceConfig.licensePath then regularFile package
  else regularFile (List.replicate kKeySize 0)

theorem referenceFiles_key {path : Bytes} (package : Bytes)
    (apart : path ≠ referenceConfig.licensePath) (privateKey : Bool) :
    loadRawKey (referenceFiles package path) privateKey = .ok (.zeros kKeySize) := by
  rw [referenceFiles, if_neg apart]
  cases privateKey with
  | false => rfl
  | true => rfl

theorem loadKeys_referenceFiles (package : Bytes) :
    loadKeys ((referencePlatform package).withFiles (referenceFiles package)) referenceConfig =
      .ok referenceKeys := by
  have identityApart : referenceConfig.identityPrivateKeyPath ≠ referenceConfig.licensePath :=
    utf8_inj.not.mpr (by decide)
  have publicApart : utf8 "/etc/yoauthorize/license.pub" ≠ referenceConfig.licensePath :=
    utf8_inj.not.mpr (by decide)
  have loadsKeys : loadKeys (referencePlatform package) referenceConfig = .ok referenceKeys := rfl
  rw [← loadsKeys]
  apply loadKeys_congr
  · rw [Platform.withFiles_loadRawKey, referenceFiles_key package identityApart]
    rfl
  · intro entry mem
    rw [List.mem_singleton.mp mem, Platform.withFiles_loadRawKey,
      referenceFiles_key package publicApart]
    rfl

/-- The service starts from these files. -/
theorem create_referenceFiles :
    ∃ package, AuthorizationService.create Backend.referenceLibraries.packages
      Backend.referenceLibraries.payloads Backend.referenceLibraries.ssl
      ((referencePlatform package).withFiles (referenceFiles package)) =
        .ok (referenceService ["capture"]) := by
  have accepted : Backend.validate (offering ["capture"]) = .ok () := rfl
  rcases create_reference accepted with ⟨package, -, created⟩
  obtain ⟨exactId, read, loadsConfig, -, collects, reads, validates⟩ :=
    AuthorizationService.create_eq_ok_iff.mp created
  cases reads
  obtain ⟨outer, key, opened, -, -⟩ := LicenseValidator.signed_of_validate validates
    fun _ same => by cases same
  obtain ⟨present, small⟩ := size_of_readPackage opened
  have loads : readLicense (referenceFiles package referenceConfig.licensePath) = some package := by
    rw [referenceFiles, if_pos rfl]
    exact readLicense_regularFile present small
  exact ⟨package, AuthorizationService.create_eq_ok_iff.mpr
    ⟨exactId, package, loadsConfig, loadKeys_referenceFiles package, collects, loads, validates⟩⟩

theorem provenance_reference :
    ∃ package,
      Provenance Backend.referenceLibraries.packages Backend.referenceLibraries.ssl
        (referenceFiles package) (referenceService ["capture"]) := by
  rcases create_referenceFiles with ⟨package, created⟩
  exact ⟨package, provenance_of_create created⟩

end YoAuthorize.Service
