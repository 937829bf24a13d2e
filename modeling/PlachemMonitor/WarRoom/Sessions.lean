import PlachemMonitor.Json.Codec
import PlachemMonitor.Spec.Result
import PlachemMonitor.Text.Lines
import PlachemMonitor.Text.Partition

/-!
# Session cookies

The pages of the War Room give a representative who comes through the reverse proxy a signed cookie,
`principal.signature`; `_session_cookie_principal` takes it apart at its first dot.

- **Round trip** (`read_issued`, `read_dotted`): the cookie of a principal is read back as this principal,
  except if the principal has a dot itself.
- **Other cookies** (`read_unsigned`, `read_raises`): a cookie without the signature of its principal is
  none, except if what stands behind its first dot is not ASCII: `hmac.compare_digest` raises then.
- `session_cookie_iff` puts both together.
-/

namespace Plachem

namespace WarRoom

namespace Sessions

/-! ## Python -/

/-- `TypeError` -/
structure TypeError where
  deriving DecidableEq

def is_ascii (text : String) : Bool := text.toList.all fun c => c.toNat < 128

/-- `hmac.compare_digest` of two texts -/
def compare_digest (a b : String) : Except TypeError Bool :=
  if is_ascii a && is_ascii b then .ok (a == b) else .error {}

/-- `bytes.hex()` -/
def hex (bytes : List UInt8) : List Char :=
  bytes.flatMap fun b => [Json.hexDigit (b.toNat / 16), Json.hexDigit (b.toNat % 16)]

/-! ## Principals -/

/-- The environment variables, and the agents that are registered. -/
structure Environment where
  /-- `PLACHEM_WAR_ROOM_REPRESENTATIVE_PRINCIPALS` -/
  representatives : String
  /-- `PLACHEM_WAR_ROOM_TEST_ADAPTER` and `PLACHEM_WAR_ROOM_TEST_ALLOW_AGENT_REPRESENTATIVE` are `"1"`. -/
  allow_agent_representative : Bool
  /-- The keys of `PLACHEM_WAR_ROOM_PRINCIPAL_TOKENS`. -/
  token_map : List String
  /-- `PLACHEM_WAR_ROOM_HUMAN_TAILSCALE_LOGIN` -/
  human_login : String
  /-- `PLACHEM_WAR_ROOM_HUMAN_REPRESENTATIVE_PRINCIPAL` -/
  human_representative : String
  /-- `PLACHEM_WAR_ROOM_SESSION_SECRET` -/
  session_secret : String
  /-- `PLACHEM_WAR_ROOM_REVERSE_PROXY_SECRET` -/
  proxy_secret : String
  /-- The keys of `load_agent_catalog()`. -/
  agent_catalog : List String
  /-- `hmac.new(secret.encode(), text.encode(), hashlib.sha256).digest()` -/
  hmac : String → String → List UInt8

def lower (text : String) : List Char := text.toList.map Char.toLower

/-- `_SAFE_AGENT_ID.fullmatch` -/
def is_safe_agent_id (text : String) : Bool :=
  match text.toList with
  | [] => false
  | c :: cs =>
    c.isAlphanum && decide (cs.length ≤ 127) &&
      cs.all fun c => c.isAlphanum || c == '.' || c == '_' || c == '-'

section

variable (env : Environment)

def canonical_agent_id (value : String) : Option String :=
  if is_safe_agent_id (Text.strip value) then
    env.agent_catalog.find? fun key => lower key == lower (Text.strip value)
  else none

def representative_principals : List String :=
  let configured := ((env.representatives.toList.splitOn ',').map fun item =>
    Text.strip (String.ofList item)).filter (· ≠ "")
  if env.allow_agent_representative then configured
  else configured.filter fun value => (canonical_agent_id env value).isNone

def _human_login_principal_map : List (String × String) :=
  let login := Text.strip env.human_login
  let principal := Text.strip env.human_representative
  if login = "" ∨ principal = "" then []
  else if (canonical_agent_id env principal).isSome then []
  else if principal ∈ representative_principals env then [(login, principal)]
  else []

def _known_principal (value : String) : Bool :=
  if value = "" then false
  else if (canonical_agent_id env value).isSome then true
  else
    decide (value ∈ env.token_map ∨ value ∈ representative_principals env ∨
      value ∈ (_human_login_principal_map env).map Prod.fst)

def _resolve_trusted_principal (value : String) : Option String :=
  if value = "" then none else (_human_login_principal_map env).lookup value

/-- `_resolve_trusted_principal(principal) or principal` -/
def trusted (principal : String) : String :=
  match _resolve_trusted_principal env principal with
  | some mapped => if mapped = "" then principal else mapped
  | none => principal

/-- `hmac.new(secret.encode(), principal.encode(), hashlib.sha256).hexdigest()` -/
def signature (principal : String) : String := String.ofList (hex (env.hmac env.session_secret principal))

/-! ## The cookie -/

/-- A request for a page. -/
structure PageRequest where
  path : String
  /-- `X-Authenticated-Principal` -/
  authenticated_principal : Option String
  /-- `X-Forwarded-User` -/
  forwarded_user : Option String
  /-- `X-War-Room-Proxy-Secret` -/
  proxy_secret : Option String

/-- `request.headers.get("X-Authenticated-Principal") or request.headers.get("X-Forwarded-User")` -/
def PageRequest.proxy_principal (request : PageRequest) : String :=
  match request.authenticated_principal with
  | some principal => if principal = "" then request.forwarded_user.getD "" else principal
  | none => request.forwarded_user.getD ""

def proxy_authenticated (request : PageRequest) : Except TypeError Bool :=
  if env.proxy_secret = "" ∨ request.proxy_principal = "" then .ok false
  else do
    let equal ← compare_digest env.proxy_secret (request.proxy_secret.getD "")
    .ok (equal && (_known_principal env request.proxy_principal ||
      (_resolve_trusted_principal env request.proxy_principal).any (· ≠ "")))

/-- The principal of the cookie. -/
def mapped (request : PageRequest) : String := trusted env request.proxy_principal

/-- `war_room_read_rbac`, for a page: the cookie that is set. -/
def issued_cookie (request : PageRequest) : Except TypeError (Option String) := do
  let authenticated ← proxy_authenticated env request
  if request.path ∈ ["/war-room", "/war-room/simple", "/war-room/advanced"] ∧ authenticated = true ∧
      env.session_secret ≠ "" then
    .ok (some (mapped env request ++ "." ++ signature env (mapped env request)))
  else .ok none

def _session_cookie_principal (cookie : Option String) : Except TypeError (Option String) :=
  match Text.cut ['.'] (cookie.getD "").toList with
  | none => .ok none
  | some (principal, signed) =>
    let principal := String.ofList principal
    if env.session_secret = "" then .ok none
    else do
      let equal ← compare_digest (String.ofList signed) (signature env principal)
      if equal = false then .ok none
      else if _known_principal env principal = false then .ok none
      else .ok (some (trusted env principal))

end

/-! ## Signatures -/

theorem hexDigit_ascii : ∀ n < 16, (Json.hexDigit n).toNat < 128 ∧ Json.hexDigit n ≠ '.' := by decide

theorem mem_hex {bytes : List UInt8} {c : Char} (h : c ∈ hex bytes) : c.toNat < 128 ∧ c ≠ '.' := by
  obtain ⟨b, -, hc⟩ := List.mem_flatMap.mp h
  have hb := b.toNat_lt
  rcases List.mem_pair.mp hc with rfl | rfl
  · exact hexDigit_ascii _ (by omega)
  · exact hexDigit_ascii _ (by omega)

variable {env : Environment} {principal : String}

theorem is_ascii_signature : is_ascii (signature env principal) = true := by
  rw [is_ascii, signature, String.toList_ofList, List.all_eq_true]
  exact fun c hc => decide_eq_true (mem_hex hc).1

theorem dot_notMem_signature : '.' ∉ (signature env principal).toList := by
  rw [signature, String.toList_ofList]
  exact fun h => (mem_hex h).2 rfl

theorem compare_signature (text : String) :
    compare_digest text (signature env principal) =
      if is_ascii text = true then .ok (text == signature env principal) else .error {} := by
  rw [compare_digest, is_ascii_signature, Bool.and_true]

/-! ## Who gets a cookie -/

theorem representative_ne_empty (h : principal ∈ representative_principals env) : principal ≠ "" := by
  unfold representative_principals at h
  split at h
  · simpa using (List.mem_filter.mp h).2
  · simpa using (List.mem_filter.mp (List.mem_filter.mp h).1).2

/-- A login stands for a representative. -/
theorem representative_of_resolve {value : String}
    (h : _resolve_trusted_principal env value = some principal) :
    principal ∈ representative_principals env := by
  unfold _resolve_trusted_principal at h
  split at h
  · cases h
  · unfold _human_login_principal_map at h
    dsimp only at h
    split at h
    · cases h
    · split at h
      · cases h
      · split at h
        · rename_i hmem
          rw [List.lookup_cons] at h
          split at h
          · cases h
            exact hmem
          · cases h
        · cases h

theorem known_of_representative (h : principal ∈ representative_principals env) :
    _known_principal env principal = true := by
  rw [_known_principal, if_neg (representative_ne_empty h)]
  split
  · rfl
  · exact decide_eq_true (Or.inr (Or.inl h))

theorem known_of_token (hne : principal ≠ "") (h : principal ∈ env.token_map) :
    _known_principal env principal = true := by
  rw [_known_principal, if_neg hne]
  split
  · rfl
  · exact decide_eq_true (Or.inl h)

theorem trusted_of_resolve {value : String} (h : _resolve_trusted_principal env value = some principal) :
    trusted env value = principal := by
  rw [trusted, h]
  exact if_neg (representative_ne_empty (representative_of_resolve h))

theorem trusted_of_none (h : _resolve_trusted_principal env principal = none) :
    trusted env principal = principal := by
  rw [trusted, h]

/-- The principal of a cookie is known. -/
theorem known_mapped {request : PageRequest} (h : proxy_authenticated env request = .ok true) :
    _known_principal env (mapped env request) = true := by
  unfold proxy_authenticated at h
  split at h
  · cases h
  · obtain ⟨equal, -, h⟩ := bind_eq_ok.mp h
    have hboth := (Bool.and_eq_true _ _ ▸ Except.ok.inj h : _ ∧ _).2
    unfold mapped
    cases hresolve : _resolve_trusted_principal env request.proxy_principal with
    | some value =>
      rw [trusted_of_resolve hresolve]
      exact known_of_representative (representative_of_resolve hresolve)
    | none =>
      rw [trusted_of_none hresolve]
      rw [hresolve] at hboth
      simpa using hboth

theorem issued_eq_some {request : PageRequest} {cookie : String}
    (h : issued_cookie env request = .ok (some cookie)) :
    proxy_authenticated env request = .ok true ∧ env.session_secret ≠ "" ∧
      cookie = mapped env request ++ "." ++ signature env (mapped env request) := by
  obtain ⟨authenticated, hauth, h⟩ := bind_eq_ok.mp h
  split at h
  · rename_i hcond
    obtain ⟨-, rfl, hsecret⟩ := hcond
    exact ⟨hauth, hsecret, (Option.some.inj (Except.ok.inj h)).symm⟩
  · cases h

/-! ## Reading a cookie -/

theorem read_cut {cookie : String} {before after : List Char} (hsecret : env.session_secret ≠ "")
    (h : Text.cut ['.'] cookie.toList = some (before, after)) :
    _session_cookie_principal env (some cookie) =
      (if is_ascii (String.ofList after) = true then
        .ok (String.ofList after == signature env (String.ofList before))
      else .error {}) >>= fun equal =>
        if equal = false then .ok none
        else if _known_principal env (String.ofList before) = false then .ok none
        else .ok (some (trusted env (String.ofList before))) := by
  rw [_session_cookie_principal, Option.getD_some, h]
  dsimp only
  rw [if_neg hsecret, compare_signature]

/-- A principal without a dot comes back. -/
theorem read_issued (hsecret : env.session_secret ≠ "") (hknown : _known_principal env principal = true)
    (hdot : '.' ∉ principal.toList) :
    _session_cookie_principal env (some (principal ++ "." ++ signature env principal)) =
      .ok (some (trusted env principal)) := by
  have hcut : Text.cut ['.'] (principal ++ "." ++ signature env principal).toList =
      some (principal.toList, (signature env principal).toList) := by
    rw [String.toList_append, String.toList_append, List.append_assoc]
    exact Text.cut_line hdot _
  rw [read_cut hsecret hcut, String.ofList_toList, String.ofList_toList, if_pos is_ascii_signature]
  simp [hknown, bind, Except.bind]

/-- What is read has the signature of its principal behind its first dot. -/
theorem signed_of_read {cookie result : String}
    (h : _session_cookie_principal env (some cookie) = .ok (some result)) :
    env.session_secret ≠ "" ∧ ∃ before after, Text.cut ['.'] cookie.toList = some (before, after) ∧
      String.ofList after = signature env (String.ofList before) := by
  by_cases hsecret : env.session_secret = ""
  · rw [_session_cookie_principal] at h
    split at h
    · cases h
    · dsimp only at h
      rw [if_pos hsecret] at h
      cases h
  · refine ⟨hsecret, ?_⟩
    cases hcut : Text.cut ['.'] (cookie.toList) with
    | none =>
      rw [_session_cookie_principal, Option.getD_some, hcut] at h
      cases h
    | some parts =>
      obtain ⟨before, after⟩ := parts
      rw [read_cut hsecret hcut] at h
      obtain ⟨equal, hequal, h⟩ := bind_eq_ok.mp h
      split at hequal
      · refine ⟨before, after, rfl, ?_⟩
        obtain rfl := Except.ok.inj hequal
        by_contra hne
        rw [if_pos (beq_eq_false_iff_ne.mpr hne)] at h
        cases h
      · cases hequal

/-- A principal with a dot does not. -/
theorem read_dotted (hdot : '.' ∈ principal.toList) (result : String) :
    _session_cookie_principal env (some (principal ++ "." ++ signature env principal)) ≠
      .ok (some result) := by
  intro h
  obtain ⟨-, before, after, hcut, hsigned⟩ := signed_of_read h
  obtain ⟨front, rest, hprincipal, hfront⟩ := List.eq_append_cons_of_mem hdot
  have hfirst : Text.cut ['.'] (principal ++ "." ++ signature env principal).toList =
      some (front, rest ++ '.' :: (signature env principal).toList) := by
    rw [String.toList_append, String.toList_append, hprincipal, List.append_assoc, List.append_assoc]
    exact Text.cut_line hfront _
  obtain ⟨-, rfl⟩ := Prod.mk.inj (Option.some.inj (hfirst.symm.trans hcut))
  -- the second dot is in what should be the signature
  have hmem : '.' ∈ (signature env (String.ofList before)).toList := by
    rw [← hsigned, String.toList_ofList]
    exact List.mem_append_right _ List.mem_cons_self
  exact dot_notMem_signature hmem

/-- The signature of its principal stands behind the first dot. -/
def Signed (env : Environment) (cookie : String) : Prop :=
  env.session_secret ≠ "" ∧ ∃ before after, Text.cut ['.'] cookie.toList = some (before, after) ∧
    String.ofList after = signature env (String.ofList before)

/-- What stands behind the first dot can be compared with a signature. -/
def Comparable (env : Environment) (cookie : String) : Prop :=
  env.session_secret ≠ "" → ∀ before after, Text.cut ['.'] cookie.toList = some (before, after) →
    is_ascii (String.ofList after) = true

theorem read_unsigned {cookie : String} (hcomparable : Comparable env cookie) (h : ¬ Signed env cookie) :
    _session_cookie_principal env (some cookie) = .ok none := by
  cases hread : _session_cookie_principal env (some cookie) with
  | ok result =>
    cases result with
    | none => rfl
    | some principal => exact absurd (signed_of_read hread) h
  | error e =>
    -- nothing but the comparison raises
    exfalso
    by_cases hsecret : env.session_secret = ""
    · rw [_session_cookie_principal] at hread
      split at hread
      · cases hread
      · dsimp only at hread
        rw [if_pos hsecret] at hread
        cases hread
    · cases hcut : Text.cut ['.'] cookie.toList with
      | none =>
        rw [_session_cookie_principal, Option.getD_some, hcut] at hread
        cases hread
      | some parts =>
        obtain ⟨before, after⟩ := parts
        rw [read_cut hsecret hcut, if_pos (hcomparable hsecret before after hcut)] at hread
        simp only [bind, Except.bind] at hread
        split_ifs at hread

theorem read_raises {cookie : String} (h : ¬ Comparable env cookie) :
    _session_cookie_principal env (some cookie) = .error {} := by
  simp only [Comparable, not_forall] at h
  obtain ⟨hsecret, before, after, hcut, hascii⟩ := h
  rw [read_cut hsecret hcut, if_neg hascii]
  rfl

/-- A signature can be compared with itself. -/
theorem Signed.comparable {cookie : String} (h : Signed env cookie) : Comparable env cookie := by
  obtain ⟨-, before, after, hcut, hsigned⟩ := h
  intro _ before' after' hcut'
  obtain ⟨-, rfl⟩ := Prod.mk.inj (Option.some.inj (hcut.symm.trans hcut'))
  rw [hsigned]
  exact is_ascii_signature

/-- The cookie of a principal is read back exactly if the principal has no dot, and an unsigned cookie is
none exactly if what stands behind its first dot is ASCII. -/
theorem session_cookie_iff (env : Environment) :
    (∀ request cookie, issued_cookie env request = .ok (some cookie) →
      (_session_cookie_principal env (some cookie) = .ok (some (trusted env (mapped env request))) ↔
        '.' ∉ (mapped env request).toList)) ∧
    ∀ cookie, (¬ Signed env cookie → _session_cookie_principal env (some cookie) = .ok none) ↔
      Comparable env cookie := by
  refine ⟨fun request cookie hissued => ?_, fun cookie => ?_⟩
  · obtain ⟨hauth, hsecret, rfl⟩ := issued_eq_some hissued
    constructor
    · intro hread hdot
      exact read_dotted hdot _ hread
    · exact read_issued hsecret (known_mapped hauth)
  · constructor
    · intro h
      by_contra hcomparable
      have hnone := h fun hsigned => hcomparable hsigned.comparable
      rw [read_raises hcomparable] at hnone
      cases hnone
    · exact fun hcomparable h => read_unsigned hcomparable h

/-! ### A login with a dot -/

/-- `ceo@plachem.ai` has a token. -/
def deployment (hmac : String → String → List UInt8) : Environment where
  representatives := "founder"
  allow_agent_representative := false
  token_map := ["founder", "ceo@plachem.ai"]
  human_login := ""
  human_representative := ""
  session_secret := "session"
  proxy_secret := "proxy"
  agent_catalog := ["main"]
  hmac := hmac

def visit (principal : String) : PageRequest where
  path := "/war-room"
  authenticated_principal := some principal
  forwarded_user := none
  proxy_secret := some "proxy"

theorem trusted_deployment (hmac : String → String → List UInt8) {principal : String} (hne : principal ≠ "") :
    trusted (deployment hmac) principal = principal := by
  have hlogin : Text.strip (deployment hmac).human_login = "" := by
    show Text.strip "" = ""
    decide
  have hmap : _human_login_principal_map (deployment hmac) = [] := by
    simp only [_human_login_principal_map, hlogin, true_or, if_true]
  apply trusted_of_none
  rw [_resolve_trusted_principal, if_neg hne, hmap]
  rfl

theorem mapped_visit (hmac : String → String → List UInt8) {principal : String} (hne : principal ≠ "") :
    mapped (deployment hmac) (visit principal) = principal := by
  have hproxy : (visit principal).proxy_principal = principal := if_neg hne
  rw [mapped, hproxy, trusted_deployment hmac hne]

/-- Who has a token gets a cookie. -/
theorem issued_to (hmac : String → String → List UInt8) {principal : String} (hne : principal ≠ "")
    (hmem : principal ∈ ["founder", "ceo@plachem.ai"]) :
    issued_cookie (deployment hmac) (visit principal) =
      .ok (some (principal ++ "." ++ signature (deployment hmac) principal)) := by
  have hproxy : (visit principal).proxy_principal = principal := if_neg hne
  have hsecret : ¬ ((deployment hmac).proxy_secret = "" ∨ principal = "") := by
    rintro (h | h)
    · exact absurd (show "proxy" = "" from h) (by decide)
    · exact hne h
  have hequal : compare_digest (deployment hmac).proxy_secret ((visit principal).proxy_secret.getD "") =
      .ok true := by
    show compare_digest "proxy" "proxy" = .ok true
    decide
  have hknown : _known_principal (deployment hmac) principal = true := known_of_token hne hmem
  have hauth : proxy_authenticated (deployment hmac) (visit principal) = .ok true := by
    rw [proxy_authenticated, hproxy, if_neg hsecret, bind_of_ok hequal, hknown]
    rfl
  rw [issued_cookie, bind_of_ok hauth, mapped_visit hmac hne]
  exact if_pos ⟨List.mem_cons_self, rfl, fun h => absurd (show "session" = "" from h) (by decide)⟩

theorem session_cookie_iff_sample :
    ¬ ∃ hmac : String → String → List UInt8,
      _session_cookie_principal (deployment hmac)
        (some ("founder" ++ "." ++ signature (deployment hmac) "founder")) ≠ .ok (some "founder") := by
  rintro ⟨hmac, h⟩
  have hround := (session_cookie_iff (deployment hmac)).1 (visit "founder") _
    (issued_to hmac (by decide) (by decide))
  rw [mapped_visit hmac (by decide)] at hround
  rw [trusted_deployment hmac (by decide)] at hround
  exact h (hround.mpr (by decide))

/-- The cookie of the login is issued, and no principal is read from it; and another cookie raises. -/
theorem dotted_login_lost :
    ¬ ∃ hmac : String → String → List UInt8,
      issued_cookie (deployment hmac) (visit "ceo@plachem.ai") ≠
        .ok (some ("ceo@plachem.ai" ++ "." ++ signature (deployment hmac) "ceo@plachem.ai")) ∨
      (∃ result, _session_cookie_principal (deployment hmac)
        (some ("ceo@plachem.ai" ++ "." ++ signature (deployment hmac) "ceo@plachem.ai")) =
          .ok (some result)) ∨
      _session_cookie_principal (deployment hmac) (some "founder.é") = .ok none := by
  rintro ⟨hmac, h | ⟨result, h⟩ | h⟩
  · exact h (issued_to hmac (by decide) (by decide))
  · exact read_dotted (by decide) result h
  · have hraises : ¬ Comparable (deployment hmac) "founder.é" := by
      intro hcomparable
      have hascii := hcomparable (fun hsecret : "session" = "" => absurd hsecret (by decide)) _ _ rfl
      exact absurd hascii (by decide)
    rw [read_raises hraises] at h
    cases h

end Sessions

end WarRoom

end Plachem
