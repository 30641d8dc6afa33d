import Mathlib.Data.List.DropRight
import ChatClient.Client

/-! How addresses are put together. A base and a path give up the slashes with which they meet, get
one in their place, and keep everything else. How many slashes they brought along shows neither in
the address nor in anything that is sent to it. -/
namespace ChatClient.AddressJoining
open Http Json

/-- A run of slashes. -/
def slashes (count : Nat) : String :=
  String.ofList (List.replicate count '/')

/-- What is left of a base and of a path where they meet: all but the slashes there. -/
structure Meet (base path front back : String) : Prop where
  ofBase : ∃ count, base = front ++ slashes count
  ofPath : ∃ count, path = slashes count ++ back
  frontOpen : front.toList.getLast? ≠ some '/'
  backOpen : back.toList.head? ≠ some '/'

section Ends
variable {chars front back : List Char}

/-- What stands behind the slashes at the start is the one part that goes on with no slash. -/
theorem drop_slashes_eq_iff :
    chars.dropWhile (· = '/') = back ↔
      (∃ count, chars = List.replicate count '/' ++ back) ∧ back.head? ≠ some '/' := by
  constructor
  · rintro rfl
    have run : ∀ c ∈ chars.takeWhile (· = '/'), c = '/' := by
      intro c member
      simpa using List.mem_takeWhile_imp member
    refine ⟨⟨(chars.takeWhile (· = '/')).length, ?_⟩, ?_⟩
    · rw [← List.eq_replicate_of_mem run, List.takeWhile_append_dropWhile]
    · intro slash
      simpa [slash] using List.head?_dropWhile_not (fun c => decide (c = '/')) chars
  · -- The slashes go as one run, and the rest starts with none that would go with them.
    rintro ⟨⟨count, rfl⟩, stop⟩
    have run : ∀ c ∈ List.replicate count '/', decide (c = '/') = true := by
      intro c member
      simpa using List.eq_of_mem_replicate member
    rw [List.dropWhile_append_of_pos run]
    cases back with
    | nil => rfl
    | cons c rest =>
      have other : c ≠ '/' := by simpa using stop
      exact List.dropWhile_cons_of_neg (by simpa using other)

/-- The same at the end, read backwards. -/
theorem drop_end_slashes_eq_iff :
    dropEndSlashes chars = front ↔
      (∃ count, chars = front ++ List.replicate count '/') ∧ front.getLast? ≠ some '/' := by
  unfold dropEndSlashes
  rw [List.reverse_eq_iff, drop_slashes_eq_iff, List.head?_reverse]
  simp only [List.reverse_eq_iff, List.reverse_append, List.reverse_replicate, List.reverse_reverse]

end Ends

section Joining
variable {base path front back : String}

theorem slashes_add (m n : Nat) : slashes m ++ slashes n = slashes (m + n) := by
  rw [slashes, slashes, ← String.ofList_append, List.replicate_append_replicate, slashes]

/-- There is one way only in which a base and a path meet, which is what trimming them finds. -/
theorem meet_iff :
    Meet base path front back ↔
      dropEndSlashes base.toList = front.toList ∧ path.toList.dropWhile (· = '/') = back.toList := by
  have whole (text before after : String) :
      text = before ++ after ↔ text.toList = before.toList ++ after.toList := by
    rw [← String.toList_inj, String.toList_append]
  have run (count : Nat) : (slashes count).toList = List.replicate count '/' := by
    rw [slashes, String.toList_ofList]
  rw [drop_end_slashes_eq_iff, drop_slashes_eq_iff]
  simp only [← run, ← whole]
  constructor
  · rintro ⟨ofBase, ofPath, frontOpen, backOpen⟩
    exact ⟨⟨ofBase, frontOpen⟩, ofPath, backOpen⟩
  · rintro ⟨⟨ofBase, frontOpen⟩, ofPath, backOpen⟩
    exact ⟨ofBase, ofPath, frontOpen, backOpen⟩

theorem exists_meet (base path : String) : ∃ front back, Meet base path front back :=
  ⟨String.ofList (dropEndSlashes base.toList), String.ofList (path.toList.dropWhile (· = '/')),
    meet_iff.mpr ⟨String.toList_ofList.symm, String.toList_ofList.symm⟩⟩

/-- More slashes where a base and a path meet go with the others. -/
theorem Meet.more (met : Meet base path front back) (m n : Nat) :
    Meet (base ++ slashes m) (slashes n ++ path) front back := by
  obtain ⟨⟨i, rfl⟩, ⟨j, rfl⟩, frontOpen, backOpen⟩ := met
  refine ⟨⟨i + m, ?_⟩, ⟨n + j, ?_⟩, frontOpen, backOpen⟩
  · rw [String.append_assoc, slashes_add]
  · rw [← String.append_assoc, slashes_add]

/-- An address is what is left of its base and of its path, with one slash between. -/
theorem join_of_meet (met : Meet base path front back) :
    joinUrl base path = front ++ "/" ++ back := by
  obtain ⟨start, rest⟩ := meet_iff.mp met
  rw [joinUrl, joinChars, start, rest]
  apply String.toList_inj.mp
  simp

/-- Nothing is left of a base and of a path that are slashes only. -/
example : joinUrl "//" "///" = "/" := by decide +kernel

theorem join_more (base path : String) (m n : Nat) :
    joinUrl (base ++ slashes m) (slashes n ++ path) = joinUrl base path := by
  obtain ⟨front, back, met⟩ := exists_meet base path
  rw [join_of_meet met, join_of_meet (met.more m n)]

/-- An address does not show how many slashes its base ends on and its path starts with. There is
one slash between what is left of the two, which has no slash on either side of it there, and
nothing is lost of them but slashes at the end of the base and at the start of the path. -/
theorem addresses_joined_by_one_slash (config : ServerConfig) (base path : String) :
    let server (address : String) : ServerConfig := { config with baseUrl := address }
    (∀ m n, (server (base ++ slashes m)).url (slashes n ++ path) = (server base).url path) ∧
      ∃ front back, Meet base path front back ∧
        (server base).url path = front ++ "/" ++ back := by
  intro server
  refine ⟨join_more base path, ?_⟩
  obtain ⟨front, back, met⟩ := exists_meet base path
  exact ⟨front, back, met, join_of_meet met⟩

end Joining

section Requests

/-- Of a base and a path a request shows nothing but their address. -/
theorem build_more (config : ServerConfig) (endpoint : Endpoint) (m n : Nat) :
    ({ config with baseUrl := config.baseUrl ++ slashes m } : ServerConfig).build
        { endpoint with path := slashes n ++ endpoint.path } = config.build endpoint := by
  let server : ServerConfig := { config with baseUrl := config.baseUrl ++ slashes m }
  let target : Endpoint := { endpoint with path := slashes n ++ endpoint.path }
  have address : server.url target.path = config.url endpoint.path :=
    join_more config.baseUrl endpoint.path m n
  have headers : server.headers target = config.headers endpoint := rfl
  change server.build target = config.build endpoint
  rw [ServerConfig.build, ServerConfig.build, address, headers]

/-- Sending to an endpoint comes to the same for a server whose base ends on more slashes. -/
theorem send_more (config : ServerConfig) (endpoint : Endpoint) (body : Option Value)
    (cancelled : Bool) (exchange : Exchange) (count : Nat) :
    send { config with baseUrl := config.baseUrl ++ slashes count } endpoint body cancelled
        exchange = send config endpoint body cancelled exchange := by
  have built := build_more config endpoint count 0
  have same : slashes 0 ++ endpoint.path = endpoint.path := String.empty_append
  rw [same] at built
  simp only [send, built]

/-- All calls of a client come to the same, and send the same requests, however many slashes its
base address ends on. -/
theorem calls_of_base_with_slashes (client : Client) (count : Nat) :
    let other : Client := { client with baseUrl := client.baseUrl ++ slashes count }
    other.complete = client.complete ∧ other.embed = client.embed ∧
      other.openCompletion = client.openCompletion := by
  intro other
  have config : other.config =
      { client.config with baseUrl := client.config.baseUrl ++ slashes count } := rfl
  refine ⟨?_, ?_, ?_⟩
  · funext request cancelled exchange
    simp only [Client.complete, requestJson, config, send_more]
  · funext request cancelled exchange
    simp only [Client.embed, requestJson, config, send_more]
  · funext request cancelled exchange
    simp only [Client.openCompletion, openStream, config, send_more]

end Requests

end ChatClient.AddressJoining
