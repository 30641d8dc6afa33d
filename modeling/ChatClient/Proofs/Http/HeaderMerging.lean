import Mathlib.Data.Multiset.OrderedMonoid
import ChatClient.Proofs.Service.Sending

/-! What a request says under each header name, whatever place the headers come from and whatever
their order is. All of them are attached side by side; the default headers alone give way to headers
of the endpoint, and a content type is added for a body that has none. -/
namespace ChatClient.HeaderMerging
open Http Json Sending

/-- The values that some headers have under a name, however it is spelled in them. -/
def under (name : String) (headers : List Header) : Multiset String :=
  ((headers.filter fun header => sameName header.name name).map Header.value : List String)

/-- The value of one header, if it goes by this name. -/
def named (name own value : String) : Multiset String :=
  if sameName own name then {value} else 0

/-- What proves who the caller is. -/
def credentialValues (name : String) : Option Credential → Multiset String
  | none => 0
  | some (.bearer token) => named name "authorization" ("Bearer " ++ token)
  | some (.keyHeader own key) => named name own key

/-- The defaults, none where the endpoint has a header of its own. -/
def defaultValues (config : ServerConfig) (endpoint : Endpoint) (name : String) : Multiset String :=
  if ∃ header ∈ endpoint.headers.entries, sameName header.name name then 0
  else under name config.defaultHeaders.entries

def agentValues (name : String) : Option String → Multiset String
  | none => 0
  | some agent => named name "user-agent" agent

/-- All that a configuration and an endpoint say under a name. -/
def given (config : ServerConfig) (endpoint : Endpoint) (name : String) : Multiset String :=
  credentialValues name config.credential + defaultValues config endpoint name +
    under name endpoint.headers.entries + agentValues name config.userAgent

/-- What a body adds: its kind, if nothing else says what that is. -/
def bodyValues (config : ServerConfig) (endpoint : Endpoint) (body : Option Value) (name : String) :
    Multiset String :=
  if body.isSome ∧ given config endpoint "content-type" = 0 then
    named name "content-type" "application/json"
  else 0

/-- What a user adds whom the address names. -/
def loginValues (config : ServerConfig) (endpoint : Endpoint) (name : String) : Multiset String :=
  match (Url.ofString? (config.url endpoint.path)).bind Url.login? with
  | none => 0
  | some (user, password) => named name "authorization" (loginHeader user password).value

/-- Nothing that endpoint headers do not replace goes by a name: no credential, no user agent, and
no user of the address. -/
structure Uncontested (config : ServerConfig) (endpoint : Endpoint) (name : String) : Prop where
  credential : ∀ credential, config.credential = some credential →
    sameName credential.header.name name = false
  agent : config.userAgent.isSome = true → sameName "user-agent" name = false
  login : ((Url.ofString? (config.url endpoint.path)).bind Url.login?).isSome = true →
    sameName "authorization" name = false

section Names
variable {a b c : String}

theorem lower_name_lower (name : String) : lowerName (lowerName name) = lowerName name := by
  have twice : ∀ c : Char, c.toLower.toLower = c.toLower := by
    intro c
    unfold Char.toLower
    grind
  simp [lowerName, Function.comp_def, twice]

theorem same_name_iff : sameName a b = true ↔ lowerName a = lowerName b :=
  decide_eq_true_iff

theorem same_name_congr (same : sameName a b = true) : sameName c a = sameName c b := by
  simp only [sameName, same_name_iff.mp same]

end Names

section Values
variable {name : String} {headers others : List Header}

theorem named_eq_zero_iff {own value : String} :
    named name own value = 0 ↔ sameName own name = false := by
  cases same : sameName own name <;> simp [named, same]

@[simp] theorem under_append :
    under name (headers ++ others) = under name headers + under name others := by
  simp [under]

@[simp] theorem under_single (own value : String) :
    under name [⟨own, value⟩] = named name own value := by
  cases same : sameName own name <;> simp [under, named, same]

/-- Headers say the same in every order. -/
theorem under_perm (same : headers.Perm others) : under name headers = under name others :=
  Multiset.coe_eq_coe.mpr ((same.filter _).map _)

/-- How names are spelled makes no difference. -/
theorem under_lower :
    under name (headers.map fun header => { header with name := lowerName header.name }) =
      under name headers := by
  have same : ∀ header : Header,
      sameName (lowerName header.name) name = sameName header.name name := by
    simp [sameName, lower_name_lower]
  simp [under, List.filter_map, Function.comp_def, same]

theorem under_eq_zero_iff :
    under name headers = 0 ↔ ∀ header ∈ headers, sameName header.name name = false := by
  simp [under, List.filter_eq_nil_iff]

end Values

section Headers
variable {config : ServerConfig} {endpoint : Endpoint} {request : Request}

theorem under_credential (name : String) (credential : Option Credential) :
    under name (credential.map Credential.header).toList = credentialValues name credential := by
  rcases credential with _ | token | ⟨own, key⟩
  · rfl
  · exact under_single _ _
  · exact under_single _ _

theorem under_agent (name : String) (agent : Option String) :
    under name (agent.map fun agent => (⟨"user-agent", agent⟩ : Header)).toList =
      agentValues name agent := by
  cases agent with
  | none => rfl
  | some agent => exact under_single _ _

/-- A name has its default values exactly if the endpoint has no header of that name. -/
theorem under_defaults (config : ServerConfig) (endpoint : Endpoint) (name : String) :
    under name (config.defaultHeaders.entries.filter
        fun header => !endpoint.headers.mentions header.name) =
      defaultValues config endpoint name := by
  have alike : ∀ header : Header, sameName header.name name = true →
      (endpoint.headers.mentions header.name = true ↔
        ∃ own ∈ endpoint.headers.entries, sameName own.name name) := by
    intro header same
    simp [HeaderMap.mentions, same_name_congr same]
  unfold defaultValues
  split
  · rename_i own
    rw [under_eq_zero_iff]
    intro header kept
    rw [← Bool.not_eq_true]
    intro same
    simp [(alike header same).mpr own] at kept
  · rename_i none
    unfold under
    rw [List.filter_filter]
    congr 2
    apply List.filter_congr
    intro header _
    by_cases same : sameName header.name name = true
    · simp [same, mt (alike header same).mp none]
    · simp [same]

/-- What is attached for an endpoint is all that it and the configuration say, under every name. -/
theorem under_headers (config : ServerConfig) (endpoint : Endpoint) (name : String) :
    under name (config.headers endpoint) = given config endpoint name := by
  simp only [ServerConfig.headers, under_append, under_credential, under_defaults, under_agent,
    given]

/-- A request can be built with a usable address and with headers that are all well-formed. -/
theorem build_eq_some_iff :
    config.build endpoint = some request ↔
      ∃ url, Url.ofString? (config.url endpoint.path) = some url ∧
        (config.headers endpoint).all Header.isValid = true ∧
        request =
          { Request.start endpoint.method url with
            headers := (Request.start endpoint.method url).headers ++
              (config.headers endpoint).map fun header =>
                { header with name := lowerName header.name } } := by
  unfold ServerConfig.build
  cases Url.ofString? (config.url endpoint.path) with
  | none => simp
  | some url =>
    simp only [Option.ite_none_right_eq_some, Option.some.injEq, exists_eq_left']
    exact and_congr_right fun _ => eq_comm

theorem under_start {url : Url} (usable : Url.ofString? (config.url endpoint.path) = some url)
    (method name : String) :
    under name (Request.start method url).headers = loginValues config endpoint name := by
  simp only [Request.start, loginValues, usable, Option.bind_some]
  cases url.login? with
  | none => rfl
  | some login => exact under_single _ _

/-- Both maps may be gone through in any order: what is attached is the same, in some order. -/
theorem headers_perm {defaults extras : List Header}
    (sameDefaults : defaults.Perm config.defaultHeaders.entries)
    (sameExtras : extras.Perm endpoint.headers.entries) :
    (({ config with defaultHeaders := ⟨defaults⟩ } : ServerConfig).headers
      { endpoint with headers := ⟨extras⟩ }).Perm (config.headers endpoint) := by
  have mentioned : ∀ name, HeaderMap.mentions ⟨extras⟩ name = endpoint.headers.mentions name :=
    fun _ => sameExtras.any_eq
  simp only [ServerConfig.headers, mentioned]
  exact (((sameDefaults.filter _).append_left _).append sameExtras).append_right _

/-- A request that has been built has a content type exactly if something said says one. -/
theorem has_content_type_iff (built : config.build endpoint = some request) :
    request.hasHeader "content-type" = true ↔ given config endpoint "content-type" ≠ 0 := by
  obtain ⟨url, -, -, rfl⟩ := build_eq_some_iff.mp built
  have kind : lowerName "content-type" = "content-type" := by decide +kernel
  have login : ∀ header ∈ (Request.start endpoint.method url).headers,
      header.name ≠ "content-type" := by
    intro header among
    simp [start_headers _ _ header among]
  rw [← under_headers, ne_eq, under_eq_zero_iff]
  simp only [Request.hasHeader, List.any_append, List.any_map, Bool.or_eq_true, List.any_eq_true,
    decide_eq_true_eq, Function.comp_apply, not_forall, Bool.not_eq_false, same_name_iff, kind,
    exists_prop]
  exact or_iff_right fun ⟨header, among, same⟩ => login header among same

/-- A body adds its kind to a request that has none, and nothing else. -/
theorem under_with_body (built : config.build endpoint = some request) (body : Option Value)
    (name : String) :
    under name (request.withBody? body).headers =
      under name request.headers + bodyValues config endpoint body name := by
  have typed := has_content_type_iff built
  cases body with
  | none => simp [Request.withBody?, bodyValues]
  | some body =>
    by_cases untyped : given config endpoint "content-type" = 0
    · have none : request.hasHeader "content-type" = false := by simpa [untyped] using typed
      simp [Request.withBody?, Request.withBody, bodyValues, untyped, none]
    · have some : request.hasHeader "content-type" = true := typed.mpr untyped
      simp [Request.withBody?, Request.withBody, bodyValues, untyped, some]

/-- All that a request says, under each name. -/
theorem under_built (built : config.build endpoint = some request) (body : Option Value)
    (name : String) :
    under name (request.withBody? body).headers =
      loginValues config endpoint name + given config endpoint name +
        bodyValues config endpoint body name := by
  rw [under_with_body built]
  obtain ⟨url, usable, -, rfl⟩ := build_eq_some_iff.mp built
  rw [under_append, under_lower, under_headers, under_start usable]

end Headers

section Requests
variable {config : ServerConfig} {endpoint : Endpoint} {request : Request}

/-- What is sent is the request that has been built, with its body. -/
theorem sent_of_built (built : config.build endpoint = some request) (body : Option Value)
    (cancelled : Bool) (exchange : Exchange) :
    ∀ sent ∈ (send config endpoint body cancelled exchange).requests,
      sent = request.withBody? body := by
  cases cancelled with
  | true => simp [send, Outcome.unsent]
  | false =>
    by_cases web : request.url.isHttp = true
    · simpa [send, built, web] using run_requests (request.withBody? body)
    · simp [send, built, web, Outcome.unsent]

/-- Under each name a request carries what its address, its credential, the endpoint and the user
agent say, and the defaults if the endpoint says nothing, each value once for every place that it
comes from; a body adds its kind if that is not among them. In which order the maps are gone through
makes no difference, to this or to whether there is a request at all. -/
theorem headers_merged_by_name (config : ServerConfig) (endpoint : Endpoint) (body : Option Value)
    (defaults extras : List Header) (built : (config.build endpoint).isSome = true)
    (sameDefaults : defaults.Perm config.defaultHeaders.entries)
    (sameExtras : extras.Perm endpoint.headers.entries) :
    let listed : ServerConfig := { config with defaultHeaders := ⟨defaults⟩ }
    let own : Endpoint := { endpoint with headers := ⟨extras⟩ }
    ∃ request, listed.build own = some request ∧
      (∀ cancelled exchange, ∀ sent ∈ (send listed own body cancelled exchange).requests,
        sent = request.withBody? body) ∧
      ∀ name, under name (request.withBody? body).headers =
        loginValues config endpoint name +
          (given config endpoint name + bodyValues config endpoint body name) := by
  intro listed own
  have address : listed.url own.path = config.url endpoint.path := rfl
  have same : (listed.headers own).Perm (config.headers endpoint) :=
    headers_perm sameDefaults sameExtras
  have alike : ∀ name, given listed own name = given config endpoint name := by
    intro name
    rw [← under_headers, ← under_headers, under_perm same]
  obtain ⟨_, made⟩ := Option.isSome_iff_exists.mp built
  obtain ⟨url, usable, valid, -⟩ := build_eq_some_iff.mp made
  have reordered : ∃ request, listed.build own = some request :=
    ⟨_, build_eq_some_iff.mpr ⟨url, address ▸ usable, same.all_eq.trans valid, rfl⟩⟩
  obtain ⟨request, made⟩ := reordered
  refine ⟨request, made, sent_of_built made body, fun name => ?_⟩
  have login : loginValues listed own name = loginValues config endpoint name := by
    simp only [loginValues, address]
  have added : bodyValues listed own body name = bodyValues config endpoint body name := by
    simp only [bodyValues, alike]
  rw [under_built made body name, login, alike, added, Multiset.add_assoc]

/-- A default that gives way, names spelled in several ways, a content type of the configuration's
own, and both maps gone through backwards. -/
theorem headers_merged_backwards :
    let defaults : List Header :=
      [⟨"Accept", "text/plain"⟩, ⟨"X-Trace", "1"⟩, ⟨"Content-Type", "a/b"⟩]
    let extras : List Header := [⟨"accept", "text/html"⟩, ⟨"ACCEPT", "image/png"⟩]
    let config : ServerConfig :=
      ⟨"http://h.example", some (.keyHeader "x-trace" "key"), ⟨defaults⟩, some "agent"⟩
    let endpoint : Endpoint := ⟨"POST", "v1/x", ⟨extras⟩⟩
    ((config.build endpoint).isSome = true ∧ defaults.reverse.Perm config.defaultHeaders.entries ∧
      extras.reverse.Perm endpoint.headers.entries) ∧
      ∃ request,
        ({ config with defaultHeaders := ⟨defaults.reverse⟩ } : ServerConfig).build
          { endpoint with headers := ⟨extras.reverse⟩ } = some request ∧
        under "Accept" (request.withBody? (some .null)).headers = {"text/html", "image/png"} ∧
        under "X-Trace" (request.withBody? (some .null)).headers = {"key", "1"} ∧
        under "content-type" (request.withBody? (some .null)).headers = {"a/b"} := by
  intro defaults extras config endpoint
  have built : (config.build endpoint).isSome = true := by decide +kernel
  have sameDefaults := defaults.reverse_perm
  have sameExtras := extras.reverse_perm
  obtain ⟨request, made, -, merged⟩ := headers_merged_by_name config endpoint (some .null)
    defaults.reverse extras.reverse built sameDefaults sameExtras
  refine ⟨⟨built, sameDefaults, sameExtras⟩, request, made, ?_, ?_, ?_⟩
  · exact (merged "Accept").trans (by decide +kernel)
  · exact (merged "X-Trace").trans (by decide +kernel)
  · exact (merged "content-type").trans (by decide +kernel)

/-- A user whom the address names is sent beside the credential, as one more value. -/
theorem user_of_address_sent_beside_credential :
    let config : ServerConfig := ⟨"http://user:pw@h.example", some (.bearer "t"), .empty, none⟩
    let endpoint : Endpoint := .post "v1/x"
    ∃ request, config.build endpoint = some request ∧
      under "authorization" (request.withBody? none).headers =
        {"Basic dXNlcjpwdw==", "Bearer t"} ∧
      under "authorization" (request.withBody? none).headers ≠
        given config endpoint "authorization" +
          bodyValues config endpoint none "authorization" := by
  intro config endpoint
  have built : (config.build endpoint).isSome = true := by decide +kernel
  obtain ⟨request, made⟩ := Option.isSome_iff_exists.mp built
  refine ⟨request, made, ?_⟩
  rw [under_built made]
  decide +kernel

end Requests

section Replacing
variable {config : ServerConfig} {endpoint : Endpoint} {header : Header}

/-- Among headers that all have names of their own, each is the only one of its name. -/
theorem under_own {headers : List Header}
    (distinct : headers.Pairwise fun a b => sameName a.name b.name = false)
    (own : header ∈ headers) : under header.name headers = {header.value} := by
  induction headers with
  | nil => cases own
  | cons first rest ih =>
    rw [List.pairwise_cons] at distinct
    have split : under header.name (first :: rest) =
        named header.name first.name first.value + under header.name rest := by
      rw [← List.singleton_append, under_append, under_single]
    rcases List.mem_cons.mp own with rfl | behind
    · have alone : under header.name rest = 0 := by
        rw [under_eq_zero_iff]
        intro other member
        have apart := distinct.1 other member
        rw [← Bool.not_eq_true, same_name_iff] at apart ⊢
        exact fun same => apart same.symm
      rw [split, alone, named, if_pos (same_name_iff.mpr rfl), Multiset.add_zero]
    · have apart : sameName first.name header.name = false := distinct.1 header behind
      rw [split, ih distinct.2 behind, named, apart]
      exact Multiset.zero_add _

/-- What stands beside a header of the endpoint: nothing, exactly if its name is uncontested. -/
theorem beside_eq_zero_iff (name : String) :
    loginValues config endpoint name + credentialValues name config.credential +
        agentValues name config.userAgent = 0 ↔ Uncontested config endpoint name := by
  have credential : credentialValues name config.credential = 0 ↔
      ∀ credential, config.credential = some credential →
        sameName credential.header.name name = false := by
    rcases config.credential with _ | token | ⟨own, key⟩ <;>
      simp [credentialValues, named_eq_zero_iff, Credential.header]
  have agent : agentValues name config.userAgent = 0 ↔
      (config.userAgent.isSome = true → sameName "user-agent" name = false) := by
    cases config.userAgent <;> simp [agentValues, named_eq_zero_iff]
  have login : loginValues config endpoint name = 0 ↔
      (((Url.ofString? (config.url endpoint.path)).bind Url.login?).isSome = true →
        sameName "authorization" name = false) := by
    unfold loginValues
    cases (Url.ofString? (config.url endpoint.path)).bind Url.login? with
    | none => simp
    | some login => simp [named_eq_zero_iff]
  rw [add_eq_zero, add_eq_zero, login, credential, agent]
  constructor
  · rintro ⟨⟨login, credential⟩, agent⟩
    exact ⟨credential, agent, login⟩
  · rintro ⟨credential, agent, login⟩
    exact ⟨⟨login, credential⟩, agent⟩

/-- A header of the endpoint keeps away the defaults of its name, and a content type that a body
would add, but not what the address, the credential and the user agent say: these stand beside it. -/
theorem under_own_header {request : Request} (built : config.build endpoint = some request)
    (body : Option Value)
    (distinct : endpoint.headers.entries.Pairwise fun a b => sameName a.name b.name = false)
    (own : header ∈ endpoint.headers.entries) :
    under header.name (request.withBody? body).headers =
      {header.value} + (loginValues config endpoint header.name +
        credentialValues header.name config.credential +
        agentValues header.name config.userAgent) := by
  have replaced : defaultValues config endpoint header.name = 0 :=
    if_pos ⟨header, own, same_name_iff.mpr rfl⟩
  have present : given config endpoint header.name =
      credentialValues header.name config.credential + {header.value} +
        agentValues header.name config.userAgent := by
    rw [given, replaced, under_own distinct own, Multiset.add_zero]
  have typed : bodyValues config endpoint body header.name = 0 := by
    unfold bodyValues
    split
    · rename_i untyped
      have none : under "content-type" endpoint.headers.entries = 0 := by
        have all := untyped.2
        rw [given, add_eq_zero, add_eq_zero] at all
        exact all.1.2
      have other := under_eq_zero_iff.mp none header own
      rw [named_eq_zero_iff, ← Bool.not_eq_true]
      rw [← Bool.not_eq_true, same_name_iff] at other
      exact fun same => other (same_name_iff.mp same).symm
    · rfl
  rw [under_built built, typed, present, Multiset.add_zero,
    Multiset.add_comm (credentialValues _ _), Multiset.add_assoc {header.value}, add_left_comm,
    ← Multiset.add_assoc (loginValues ..)]

/-- A header of an endpoint whose headers have names of their own is sent with its own value, and
never with a default beside it. It is sent alone exactly if its name is uncontested. -/
theorem own_header_alone_iff_uncontested (config : ServerConfig) (endpoint : Endpoint)
    (body : Option Value) (header : Header) (built : (config.build endpoint).isSome = true)
    (distinct : endpoint.headers.entries.Pairwise fun a b => sameName a.name b.name = false)
    (own : header ∈ endpoint.headers.entries) :
    ∃ request, config.build endpoint = some request ∧
      (∀ cancelled exchange, ∀ sent ∈ (send config endpoint body cancelled exchange).requests,
        sent = request.withBody? body) ∧
      under header.name (request.withBody? body).headers =
        {header.value} + (loginValues config endpoint header.name +
          credentialValues header.name config.credential +
          agentValues header.name config.userAgent) ∧
      (under header.name (request.withBody? body).headers = {header.value} ↔
        Uncontested config endpoint header.name) := by
  obtain ⟨request, made⟩ := Option.isSome_iff_exists.mp built
  have sent := under_own_header made body distinct own
  refine ⟨request, made, sent_of_built made body, sent, ?_⟩
  rw [sent, ← beside_eq_zero_iff]
  exact add_eq_left

/-- A default is replaced whatever the case of its name, beside a credential of another name. -/
theorem own_header_alone_with_credential :
    let own : Header := ⟨"ACCEPT", "text/html"⟩
    let config : ServerConfig :=
      ⟨"http://h.example", some (.bearer "t"), ⟨[⟨"accept", "text/plain"⟩]⟩, some "agent"⟩
    let endpoint : Endpoint := ⟨"POST", "v1/x", ⟨[own, ⟨"Content-Type", "a/b"⟩]⟩⟩
    ((config.build endpoint).isSome = true ∧
      endpoint.headers.entries.Pairwise (fun a b => sameName a.name b.name = false) ∧
      own ∈ endpoint.headers.entries) ∧
      ∃ request, config.build endpoint = some request ∧
        under "ACCEPT" (request.withBody? (some .null)).headers = {"text/html"} := by
  intro own config endpoint
  have built : (config.build endpoint).isSome = true := by decide +kernel
  have distinct : endpoint.headers.entries.Pairwise
      (fun a b => sameName a.name b.name = false) := by decide +kernel
  have member : own ∈ endpoint.headers.entries := List.mem_cons_self
  obtain ⟨request, made, -, -, alone⟩ :=
    own_header_alone_iff_uncontested config endpoint (some .null) own built distinct member
  refine ⟨⟨built, distinct, member⟩, request, made, alone.mpr ⟨?_, ?_, ?_⟩⟩
  · rintro credential ⟨⟩
    decide +kernel
  · decide +kernel
  · decide +kernel

/-- Headers that name a credential and an agent of the endpoint's own are sent beside those of the
configuration. -/
theorem own_headers_contested :
    let config : ServerConfig :=
      ⟨"https://api.example.com", some (.bearer "t"), .empty, some "agent"⟩
    let endpoint : Endpoint :=
      ((Endpoint.post "v1/x").withHeader "Authorization" "own").withHeader "User-Agent" "mine"
    endpoint.headers.entries.Pairwise (fun a b => sameName a.name b.name = false) ∧
      ∃ request, config.build endpoint = some request ∧
        under "Authorization" (request.withBody? none).headers = {"own", "Bearer t"} ∧
        under "User-Agent" (request.withBody? none).headers = {"mine", "agent"} := by
  intro config endpoint
  have built : (config.build endpoint).isSome = true := by decide +kernel
  obtain ⟨request, made⟩ := Option.isSome_iff_exists.mp built
  refine ⟨by decide +kernel, request, made, ?_⟩
  rw [under_built made, under_built made]
  decide +kernel

end Replacing

end ChatClient.HeaderMerging
