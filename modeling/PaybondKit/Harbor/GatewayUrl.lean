import PaybondKit.Agent.Types
import PaybondKit.Foundation.IpAddress

/-!
# Gateway URLs

Cleartext is meant for this machine, and with an opt-in for its private network. A host that is no
address counts as loopback when its text begins with `127.`; that is the one way in which a name of
another machine gets the key in clear text.
-/

namespace PaybondKit.Harbor

open Agent (PyExc)

/-- What `urlparse` finds, as far as it is read. -/
structure ParsedUrl where
  scheme : String
  netloc : String
  hostname : Option String
  deriving DecidableEq, Repr

/-- Letter case, `urlparse`, and the environment. -/
structure UrlPlatform where
  lower : String → String
  urlparse : String → Except PyExc ParsedUrl
  environ : String → Option String

/-! ## Hosts -/

section Hosts

variable (platform : UrlPlatform)

def localGatewayHosts : List String := ["localhost", "127.0.0.1", "::1"]

def startsWith127 (text : String) : Bool := ['1', '2', '7', '.'].isPrefixOf text.toList

def isRfc1918Ipv4 : IpAddress → Bool
  | .v4 address =>
      address.first = 10 ∨ (address.first = 192 ∧ address.second = 168) ∨
        (address.first = 172 ∧ 16 ≤ address.second ∧ address.second ≤ 31)
  | .v6 _ => false

def isLoopbackGatewayHost (hostname : String) : Bool :=
  let lowered := platform.lower (pyStrip hostname)
  if lowered ∈ localGatewayHosts then true
  else
    match ipAddress lowered with
    | none => startsWith127 lowered
    | some address => address.isLoopback

def isLocalGatewayHost (hostname : String) : Bool :=
  let lowered := platform.lower (pyStrip hostname)
  if isLoopbackGatewayHost platform lowered then true
  else
    match ipAddress lowered with
    | none => false
    | some address => isRfc1918Ipv4 address

end Hosts

/-! ## URLs -/

section Urls

variable (platform : UrlPlatform)

def insecureGatewayUrl (message : String) : PyExc := .other "InsecureGatewayURLError" message

def allowInsecureEnv : String := "PAYBOND_ALLOW_INSECURE_GATEWAY"

/-- `_allow_insecure_private_network`: the argument, or else the environment. -/
def allowsInsecure (allowInsecurePrivateNetwork : Bool) : Bool :=
  if allowInsecurePrivateNetwork then true
  else
    platform.lower (pyStrip ((platform.environ allowInsecureEnv).getD "")) ∈ ["1", "true", "yes"]

/-- `text.rstrip("/")`. -/
def rstripSlash (text : String) : String := String.ofList (text.toList.rdropWhile (· = '/'))

def normalizeGatewayBaseUrl (url : String) (allowInsecurePrivateNetwork : Bool) :
    Except PyExc String := do
  let trimmed := pyStrip url
  if trimmed = "" then throw (insecureGatewayUrl "gateway URL is required")
  let parsed ← platform.urlparse trimmed
  if parsed.scheme = "" ∨ parsed.netloc = "" then
    throw (insecureGatewayUrl "gateway URL must be an absolute URL")
  let scheme := platform.lower parsed.scheme
  let hostname := platform.lower (parsed.hostname.getD "")
  if scheme = "https" then return rstripSlash trimmed
  if scheme = "http" ∧ isLoopbackGatewayHost platform hostname then return rstripSlash trimmed
  if scheme = "http" ∧ allowsInsecure platform allowInsecurePrivateNetwork ∧
      isLocalGatewayHost platform hostname then
    return rstripSlash trimmed
  throw (insecureGatewayUrl ("gateway URL must use https:// (http:// is allowed only for loopback; " ++
    s!"set {allowInsecureEnv}=1 for private-network cleartext)"))

end Urls

/-! ## Hosts that may be reached in clear text -/

section Cleartext

open IPv4Address (Within)

/-- A literal of this machine. -/
def LoopbackAddress : IpAddress → Prop
  | .v4 address => Within ⟨127, 0, 0, 0⟩ 8 address
  | .v6 address => address.ip = 1 ∨
      ∃ mapped, address.ipv4Mapped = some mapped ∧ Within ⟨127, 0, 0, 0⟩ 8 mapped

/-- A literal of one of the three private networks. -/
def PrivateAddress : IpAddress → Prop
  | .v4 address => Within ⟨10, 0, 0, 0⟩ 8 address ∨ Within ⟨172, 16, 0, 0⟩ 12 address ∨
      Within ⟨192, 168, 0, 0⟩ 16 address
  | .v6 _ => False

/-- The host is this machine, or with the opt-in one of its private network. -/
def CleartextHost (optIn : Prop) (host : String) : Prop :=
  host = "localhost" ∨ ∃ address, ipAddress host = some address ∧
    (LoopbackAddress address ∨ (optIn ∧ PrivateAddress address))

/-- The host begins like a loopback address and is no address. -/
def LooksLoopback (host : String) : Prop := ipAddress host = none ∧ startsWith127 host = true

theorem isLoopback_iff {address : IpAddress} :
    address.isLoopback = true ↔ LoopbackAddress address := by
  cases address with
  | v4 address => exact IPv4Address.isLoopback_iff
  | v6 address =>
      rw [IpAddress.isLoopback, IPv6Address.isLoopback, LoopbackAddress]
      cases hmapped : address.ipv4Mapped with
      | none => simp
      | some mapped =>
          have hne : address.ip ≠ 1 := by
            intro hone
            simp [IPv6Address.ipv4Mapped, hone] at hmapped
          simp [hne, IPv4Address.isLoopback_iff]

theorem isRfc1918Ipv4_iff {address : IpAddress} :
    isRfc1918Ipv4 address = true ↔ PrivateAddress address := by
  cases address with
  | v4 address =>
      obtain ⟨first, second, third, fourth⟩ := address
      simp only [isRfc1918Ipv4, PrivateAddress, Within, IPv4Address.value, decide_eq_true_eq,
        Fin.ext_iff, Fin.le_def]
      omega
  | v6 address => simp [isRfc1918Ipv4, PrivateAddress]

variable {platform : UrlPlatform} {hostname : String} {optIn : Prop}

theorem cleartextHost_of_local {host : String} (hhost : host ∈ localGatewayHosts) :
    CleartextHost optIn host := by
  have hfour : ipAddress "127.0.0.1" = some (.v4 ⟨127, 0, 0, 1⟩) := by decide +kernel
  have hsix : ipAddress "::1" = some (.v6 ⟨1, none⟩) := by decide +kernel
  simp only [localGatewayHosts, List.mem_cons, List.not_mem_nil, or_false] at hhost
  rcases hhost with rfl | rfl | rfl
  · exact .inl rfl
  · exact .inr ⟨_, hfour, .inl (isLoopback_iff.mp (by decide))⟩
  · exact .inr ⟨_, hsix, .inl (.inl rfl)⟩

theorem isLoopbackGatewayHost_iff : isLoopbackGatewayHost platform hostname = true ↔
    CleartextHost False (platform.lower (pyStrip hostname)) ∨
      LooksLoopback (platform.lower (pyStrip hostname)) := by
  unfold isLoopbackGatewayHost
  generalize platform.lower (pyStrip hostname) = host
  dsimp only
  split
  next hlocal => exact iff_of_true rfl (.inl (cleartextHost_of_local hlocal))
  next hlocal =>
    have hname : host ≠ "localhost" := by
      rintro rfl
      exact hlocal (by decide)
    cases haddress : ipAddress host with
    | none => simp [CleartextHost, LooksLoopback, haddress, hname]
    | some address => simp [CleartextHost, LooksLoopback, haddress, hname, isLoopback_iff]

/-- A text without space around it in lower case is kept as it is. -/
structure UrlPlatform.Laws (platform : UrlPlatform) : Prop where
  lower_strip : ∀ text, platform.lower (pyStrip (platform.lower (pyStrip text))) =
    platform.lower (pyStrip text)

theorem isLocalGatewayHost_iff (hlaws : platform.Laws) :
    isLocalGatewayHost platform hostname = true ↔
      CleartextHost True (platform.lower (pyStrip hostname)) ∨
        LooksLoopback (platform.lower (pyStrip hostname)) := by
  unfold isLocalGatewayHost
  dsimp only
  have hloopback := @isLoopbackGatewayHost_iff platform (platform.lower (pyStrip hostname))
  rw [hlaws.lower_strip] at hloopback
  generalize platform.lower (pyStrip hostname) = host at hloopback
  have hmore : CleartextHost True host ↔ CleartextHost False host ∨
      ∃ address, ipAddress host = some address ∧ PrivateAddress address := by
    unfold CleartextHost
    constructor
    · rintro (hname | ⟨address, haddress, hloop | ⟨-, hprivate⟩⟩)
      · exact .inl (.inl hname)
      · exact .inl (.inr ⟨address, haddress, .inl hloop⟩)
      · exact .inr ⟨address, haddress, hprivate⟩
    · rintro ((hname | ⟨address, haddress, hloop | ⟨hfalse, -⟩⟩) | ⟨address, haddress, hprivate⟩)
      · exact .inl hname
      · exact .inr ⟨address, haddress, .inl hloop⟩
      · exact hfalse.elim
      · exact .inr ⟨address, haddress, .inr ⟨trivial, hprivate⟩⟩
  rw [hmore]
  by_cases hloop : isLoopbackGatewayHost platform host = true
  · rw [if_pos hloop]
    refine iff_of_true rfl ?_
    rcases hloopback.mp hloop with h | h
    · exact .inl (.inl h)
    · exact .inr h
  · obtain ⟨hclear, hlooks⟩ := not_or.mp fun h => hloop (hloopback.mpr h)
    rw [if_neg hloop]
    cases haddress : ipAddress host with
    | none => simp [hclear, hlooks]
    | some address => simp [hclear, hlooks, isRfc1918Ipv4_iff]

end Cleartext

/-! ## Accepted URLs -/

section Claim

variable {platform : UrlPlatform} {url : String} {allow : Bool} {parsed : ParsedUrl}

/-- The URL has a scheme and a network location. -/
def IsAbsolute (platform : UrlPlatform) (url : String) (parsed : ParsedUrl) : Prop :=
  pyStrip url ≠ "" ∧ platform.urlparse (pyStrip url) = .ok parsed ∧ parsed.scheme ≠ "" ∧
    parsed.netloc ≠ ""

/-- The host, in lower case and without the space around it. -/
def hostOf (platform : UrlPlatform) (parsed : ParsedUrl) : String :=
  platform.lower (pyStrip (platform.lower (parsed.hostname.getD "")))

theorem normalizeGatewayBaseUrl_ok_iff :
    (∃ base, normalizeGatewayBaseUrl platform url allow = .ok base) ↔
      ∃ parsed, IsAbsolute platform url parsed ∧
        (platform.lower parsed.scheme = "https" ∨
          (platform.lower parsed.scheme = "http" ∧
            (isLoopbackGatewayHost platform (platform.lower (parsed.hostname.getD "")) = true ∨
              (allowsInsecure platform allow = true ∧
                isLocalGatewayHost platform (platform.lower (parsed.hostname.getD "")) =
                  true)))) := by
  unfold normalizeGatewayBaseUrl
  dsimp only
  by_cases htrimmed : pyStrip url = ""
  · rw [if_pos htrimmed]
    exact iff_of_false (fun ⟨_, h⟩ => (nomatch h)) fun ⟨_, habsolute, _⟩ => habsolute.1 htrimmed
  rw [if_neg htrimmed]
  cases hparsed : platform.urlparse (pyStrip url) with
  | error exception =>
      refine iff_of_false (fun ⟨_, h⟩ => (nomatch h)) fun ⟨parsed, habsolute, _⟩ => ?_
      cases hparsed.symm.trans habsolute.2.1
  | ok parsed =>
      have hunique : ∀ other, IsAbsolute platform url other → other = parsed := fun other h =>
        Except.ok.inj (h.2.1.symm.trans hparsed)
      rw [except_ok_bind]
      by_cases hrelative : parsed.scheme = "" ∨ parsed.netloc = ""
      · rw [if_pos hrelative]
        refine iff_of_false (fun ⟨_, h⟩ => (nomatch h)) fun ⟨other, habsolute, _⟩ => ?_
        obtain rfl := hunique other habsolute
        exact hrelative.elim habsolute.2.2.1 habsolute.2.2.2
      obtain ⟨hscheme, hnetloc⟩ := not_or.mp hrelative
      have habsolute : IsAbsolute platform url parsed := ⟨htrimmed, hparsed, hscheme, hnetloc⟩
      rw [if_neg hrelative]
      split
      next hhttps => exact iff_of_true ⟨_, rfl⟩ ⟨parsed, habsolute, .inl hhttps⟩
      next hhttps =>
      split
      next hloop => exact iff_of_true ⟨_, rfl⟩ ⟨parsed, habsolute, .inr ⟨hloop.1, .inl hloop.2⟩⟩
      next hloop =>
      split
      next hlocal =>
        exact iff_of_true ⟨_, rfl⟩ ⟨parsed, habsolute, .inr ⟨hlocal.1, .inr hlocal.2⟩⟩
      next hlocal =>
        refine iff_of_false (fun ⟨_, h⟩ => (nomatch h)) ?_
        rintro ⟨other, hother, hcases⟩
        obtain rfl := hunique other hother
        rcases hcases with h | ⟨h, hhost | hhost⟩
        · exact hhttps h
        · exact hloop ⟨h, hhost⟩
        · exact hlocal ⟨h, hhost⟩

/-- What is sent to an accepted URL is encrypted, or stays on this machine, or with the opt-in in
its private network. -/
def KeepsCleartextLocal (platform : UrlPlatform) (url : String) (allow : Bool) : Prop :=
  ∀ base, normalizeGatewayBaseUrl platform url allow = .ok base →
    ∃ parsed, IsAbsolute platform url parsed ∧
      (platform.lower parsed.scheme = "https" ∨
        (platform.lower parsed.scheme = "http" ∧
          CleartextHost (allowsInsecure platform allow = true) (hostOf platform parsed)))

/-- Cleartext stays local exactly when the host of a cleartext URL does not just begin like a
loopback address. -/
theorem keepsCleartextLocal_iff (hlaws : platform.Laws) :
    KeepsCleartextLocal platform url allow ↔
      ¬∃ parsed, IsAbsolute platform url parsed ∧ platform.lower parsed.scheme = "http" ∧
        LooksLoopback (hostOf platform parsed) := by
  have hunique : ∀ parsed other, IsAbsolute platform url parsed → IsAbsolute platform url other →
      other = parsed := fun parsed other hparsed hother =>
    Except.ok.inj (hother.2.1.symm.trans hparsed.2.1)
  have hnarrow : ∀ {optIn : Prop} {host : String}, CleartextHost False host →
      CleartextHost optIn host := by
    rintro optIn host (hname | ⟨address, haddress, hloop | ⟨hfalse, -⟩⟩)
    · exact .inl hname
    · exact .inr ⟨address, haddress, .inl hloop⟩
    · exact hfalse.elim
  constructor
  · rintro hkeeps ⟨parsed, habsolute, hhttp, hlooks⟩
    obtain ⟨base, hbase⟩ : ∃ base, normalizeGatewayBaseUrl platform url allow = .ok base :=
      normalizeGatewayBaseUrl_ok_iff.mpr
        ⟨parsed, habsolute, .inr ⟨hhttp, .inl (isLoopbackGatewayHost_iff.mpr (.inr hlooks))⟩⟩
    obtain ⟨other, hother, hcases⟩ := hkeeps base hbase
    obtain rfl := hunique parsed other habsolute hother
    rcases hcases with hhttps | ⟨-, hname | ⟨address, haddress, -⟩⟩
    · rw [hhttp] at hhttps
      exact absurd hhttps (by decide)
    · rw [LooksLoopback, hname] at hlooks
      exact absurd hlooks.2 (by decide)
    · exact nomatch hlooks.1.symm.trans haddress
  · intro hnot base hbase
    obtain ⟨parsed, habsolute, hcases⟩ := normalizeGatewayBaseUrl_ok_iff.mp ⟨base, hbase⟩
    refine ⟨parsed, habsolute, ?_⟩
    rcases hcases with hhttps | ⟨hhttp, hhost⟩
    · exact .inl hhttps
    have hlooks : ¬LooksLoopback (hostOf platform parsed) := fun h =>
      hnot ⟨parsed, habsolute, hhttp, h⟩
    rcases hhost with hloop | ⟨hallows, hlocal⟩
    · exact .inr ⟨hhttp, hnarrow ((isLoopbackGatewayHost_iff.mp hloop).resolve_right hlooks)⟩
    · have hclear := ((isLocalGatewayHost_iff hlaws).mp hlocal).resolve_right hlooks
      rw [eq_true hallows]
      exact .inr ⟨hhttp, hclear⟩

end Claim

/-! ## A name that begins like an address -/

/-- `scheme://netloc` with a host alone, in lower case. -/
def splitPlainUrl (url : String) : ParsedUrl :=
  match url.toList.span (· ≠ ':') with
  | (scheme, ':' :: '/' :: '/' :: rest) =>
      let netloc := String.ofList (rest.takeWhile (· ≠ '/'))
      ⟨String.ofList scheme, netloc, some netloc⟩
  | _ => ⟨"", "", none⟩

/-- Texts in lower case, plain URLs, and no environment. -/
def platformPlain : UrlPlatform where
  lower := id
  urlparse := fun url => .ok (splitPlainUrl url)
  environ := fun _ => none

theorem laws_plain : platformPlain.Laws := ⟨pyStrip_pyStrip⟩

/-- A name in the domain of somebody else gets the key in clear text. -/
theorem not_keepsCleartextLocal_name : ¬∀ (platform : UrlPlatform) (url : String) (allow : Bool),
    platform.Laws → KeepsCleartextLocal platform url allow := by
  intro hclaim
  have hbase : normalizeGatewayBaseUrl platformPlain "http://127.0.0.1.evil.example/" false =
      .ok "http://127.0.0.1.evil.example" := by
    rfl
  obtain ⟨parsed, ⟨-, hparsed, -⟩, hcases⟩ :=
    hclaim platformPlain "http://127.0.0.1.evil.example/" false laws_plain _ hbase
  obtain rfl := Except.ok.inj hparsed
  rcases hcases with hhttps | ⟨-, hname | ⟨address, haddress, -⟩⟩
  · exact absurd hhttps (by decide +kernel)
  · exact absurd hname (by decide +kernel)
  · have hnone : ipAddress (hostOf platformPlain
        (splitPlainUrl (pyStrip "http://127.0.0.1.evil.example/"))) = none := by
      decide +kernel
    exact nomatch hnone.symm.trans haddress

theorem keepsCleartextLocal_iff_private :
    KeepsCleartextLocal platformPlain "http://10.0.0.7/" true ↔
      ¬∃ parsed, IsAbsolute platformPlain "http://10.0.0.7/" parsed ∧
        platformPlain.lower parsed.scheme = "http" ∧
          LooksLoopback (hostOf platformPlain parsed) :=
  keepsCleartextLocal_iff laws_plain

end PaybondKit.Harbor
