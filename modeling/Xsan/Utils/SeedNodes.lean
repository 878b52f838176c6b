import Xsan.Utils.ConfigLoad
import Xsan.Lib.Search
import Xsan.Lib.HexText

/-!
# The seed nodes of the cluster configuration

`xsan_config_load_cluster_config` (config.c:659-720) cuts the string of
`cluster.seed_nodes` with `strtok(str_copy, ", \t\n")` and reads each token
as `U@A:P`: the UUID up to the first `@`, the address up to the last `:`
(`strrchr`, so that an IPv6 address may hold colons), the port after it. A
token without `@`, without a `:` after it, with a port `xsan_str_to_long`
rejects or outside `[1, 65535]`, or whose UUID `spdk_uuid_parse` rejects is
skipped with `continue`; every other token fills the next slot of
`seed_nodes`, until `XSAN_MAX_SEED_NODES` slots are filled.
`spdk_uuid_parse` is a parameter; it gives the UUID as a number, as node
ids are elsewhere in the model.

Nothing checks the address. It is copied with
`xsan_strcpy_safe(storage_addr.ip, ip_part, INET_ADDRSTRLEN)`, which keeps at
most 15 characters: enough for every IPv4 address, not for an IPv6 address
of 16 characters or more.

Results:
* `parseSeedToken_eq_some_iff`: a token is accepted exactly when it is
  `U@A:P` with `U` parsed and `P` a port, whatever `A` is.
* `seedLoop_eq`: the run lemma; the loop keeps the nodes of the accepted
  tokens, in order, up to the cap.
* `xsanConfigLoadSeedNodes_eq`, `seedNode_ip`: the seed list of any string,
  with each address cut to its first 15 characters.
* `seed_nodes_truncate_ipv6_address`: an IPv6 literal of 16 characters comes
  out cut, and a token whose address is no IP literal still takes a slot.
-/

namespace Xsan

open Search

/-- `XSAN_MAX_SEED_NODES` (include/xsan_types.h:29). -/
def xsanMaxSeedNodes : ℕ := 16

/-- `INET_ADDRSTRLEN` of `<netinet/in.h>`. -/
def inetAddrstrlen : ℕ := 16

/-- `xsan_address_t` as the seed parser fills it. -/
structure XsanAddress where
  ip : List Char
  port : ℕ
deriving DecidableEq, Repr

/-- The fields of a seed node (`xsan_node_t`) that the parser writes after
its `memset` to zero. -/
structure XsanSeedNode where
  id : ℕ
  hostname : List Char
  storageAddr : XsanAddress
  mgmtAddr : XsanAddress
deriving DecidableEq, Repr

/-- The delimiters of `strtok(str_copy, ", \t\n")`. -/
def isSeedDelim (c : Char) : Bool := c == ',' || c == ' ' || c == '\t' || c == '\n'

/-- The tokens `strtok` returns one after the other: the maximal runs of
characters that are not delimiters. Writing a NUL inside a token does not
move where `strtok` resumes. -/
def seedTokens (s : List Char) : List (List Char) := (s.splitOnP isSeedDelim).filter (· != [])

/-- The port check (lines 683-690): `xsan_str_to_long` accepts the text and
the value is in `[1, 65535]`. -/
def seedPort (portStr : List Char) : Option ℕ :=
  match xsanStrToLong portStr with
  | some longPort => if longPort > 0 ∧ longPort ≤ 65535 then some longPort.toNat else none
  | none => none

/-- The node a slot receives (lines 700-708): the address is copied into
`storage_addr.ip` with `INET_ADDRSTRLEN` and into `hostname` with
`XSAN_MAX_NAME_LEN`, and `mgmt_addr` is a copy of `storage_addr`. -/
def seedNode (id : ℕ) (ipPart : List Char) (port : ℕ) : XsanSeedNode :=
  let storageAddr : XsanAddress := ⟨(xsanStrcpySafe [] ipPart inetAddrstrlen).1, port⟩
  { id := id
    hostname := (xsanStrcpySafe [] ipPart xsanMaxNameLen).1
    storageAddr := storageAddr
    mgmtAddr := storageAddr }

/-- The loop body on one token (lines 670-715): the node it fills a slot
with, or `none` where the body skips the token with `continue`. -/
def parseSeedToken (uuidParse : List Char → Option ℕ) (token : List Char) : Option XsanSeedNode :=
  -- `strchr(token, '@')`
  if '@' ∉ token then none
  else
    let uuidPart := token.takeWhile (· != '@')
    let ipPart := (token.dropWhile (· != '@')).drop 1
    -- `strrchr(ip_part, ':')`: the cut is searched from the end
    if ':' ∉ ipPart then none
    else
      let portStr := (ipPart.reverse.takeWhile (· != ':')).reverse
      let ip := ((ipPart.reverse.dropWhile (· != ':')).drop 1).reverse
      do
        let port ← seedPort portStr
        let id ← uuidParse uuidPart
        some (seedNode id ip port)

/-- The `while (token && seed_node_count < XSAN_MAX_SEED_NODES)` loop
(lines 669-717), on the slots filled so far and the tokens `strtok` has
still to return. -/
def seedLoop (uuidParse : List Char → Option ℕ) (nodes : List XsanSeedNode) :
    List (List Char) → List XsanSeedNode
  | [] => nodes
  | token :: tokens =>
    if nodes.length < xsanMaxSeedNodes then
      match parseSeedToken uuidParse token with
      | some node => seedLoop uuidParse (nodes ++ [node]) tokens
      | none => seedLoop uuidParse nodes tokens
    else nodes

/-- The seed list of `xsan_config_load_cluster_config` (lines 659-720) on the
string `xsan_config_get_string(config, "cluster.seed_nodes", "")` answered
(`XsanClusterConfig.seedNodes`): the filled slots of `seed_nodes`, whose
number is `seed_node_count`, or `none` when `xsan_strdup` fails and the
function returns `false`. -/
def xsanConfigLoadSeedNodes (uuidParse : List Char → Option ℕ) (seedNodesStr : List Char)
    (strdupOk : Bool) : Option (List XsanSeedNode) :=
  if seedNodesStr.length > 0 then
    if !strdupOk then none else some (seedLoop uuidParse [] (seedTokens seedNodesStr))
  else some []

/-! ## One token -/

section Token

variable (uuidParse : List Char → Option ℕ)

/-- The address a slot keeps is the first `INET_ADDRSTRLEN - 1` characters. -/
@[simp] theorem seedNode_ip (id : ℕ) (ipPart : List Char) (port : ℕ) :
    (seedNode id ipPart port).storageAddr.ip = ipPart.take 15 :=
  xsanStrcpySafe_fst (by decide)

/-- A token `U@A:P` whose `U` has no `@` and whose `P` has no `:` is cut at
that `@` and that `:`, whatever `A` holds: the node has the UUID of `U`, the
address `A` and the port `P`, if both parse. -/
theorem parseSeedToken_split {u a p : List Char} (hu : '@' ∉ u) (hp : ':' ∉ p) :
    parseSeedToken uuidParse (u ++ '@' :: (a ++ ':' :: p)) =
      (seedPort p).bind fun port => (uuidParse u).map fun id => seedNode id a port := by
  have hat : '@' ∈ u ++ '@' :: (a ++ ':' :: p) := List.mem_append_right _ List.mem_cons_self
  have hcolon : ':' ∈ a ++ ':' :: p := List.mem_append_right _ List.mem_cons_self
  -- the reversed address part starts with the port, reversed
  have hrev : (a ++ ':' :: p).reverse = p.reverse ++ ':' :: a.reverse := by simp
  have hp' : ':' ∉ p.reverse := by rwa [List.mem_reverse]
  rw [parseSeedToken, if_neg (not_not.mpr hat)]
  dsimp only
  rw [takeWhile_ne_append_cons hu, dropWhile_ne_append_cons hu, List.drop_one, List.tail_cons,
    if_neg (not_not.mpr hcolon), hrev, takeWhile_ne_append_cons hp', dropWhile_ne_append_cons hp',
    List.reverse_reverse, List.drop_one, List.tail_cons, List.reverse_reverse]
  cases seedPort p <;> cases uuidParse u <;> rfl

/-- Every token the body accepts is `U@A:P` with `U` free of `@`, `P` free
of `:`, `U` parsed and `P` a port; the node's address is `A` cut. -/
theorem parseSeedToken_inv {token : List Char} {node : XsanSeedNode}
    (h : parseSeedToken uuidParse token = some node) :
    ∃ u a p, '@' ∉ u ∧ ':' ∉ p ∧ token = u ++ '@' :: (a ++ ':' :: p) ∧
      ∃ port id, seedPort p = some port ∧ uuidParse u = some id ∧ node = seedNode id a port := by
  -- cut at the first `@`, then at the last `:` of what follows it
  by_cases hat : '@' ∈ token
  swap
  · rw [parseSeedToken, if_pos hat] at h
    cases h
  obtain ⟨u, rest, hu, rfl⟩ := exists_append_cons_of_mem hat
  by_cases hcolon : ':' ∈ rest
  swap
  · rw [parseSeedToken, if_neg (not_not.mpr hat)] at h
    dsimp only at h
    rw [dropWhile_ne_append_cons hu, List.drop_one, List.tail_cons, if_pos hcolon] at h
    cases h
  obtain ⟨a, p, hp, rfl⟩ := exists_append_cons_of_mem_last hcolon
  rw [parseSeedToken_split uuidParse hu hp] at h
  obtain ⟨port, hport, hmap⟩ := Option.bind_eq_some_iff.mp h
  obtain ⟨id, hid, rfl⟩ := Option.map_eq_some_iff.mp hmap
  exact ⟨u, a, p, hu, hp, rfl, port, id, hport, hid, rfl⟩

/-- The tokens the body accepts are exactly the `U@A:P` with `U` free of `@`,
`P` free of `:`, `U` a UUID `spdk_uuid_parse` takes and `P` a port in
`[1, 65535]`, whatever the address `A`; the node it makes is `A` cut, with
that UUID and port. -/
theorem parseSeedToken_eq_some_iff {token : List Char} {node : XsanSeedNode} :
    parseSeedToken uuidParse token = some node ↔
      ∃ u a p, '@' ∉ u ∧ ':' ∉ p ∧ token = u ++ '@' :: (a ++ ':' :: p) ∧
        ∃ port id, seedPort p = some port ∧ uuidParse u = some id ∧ node = seedNode id a port := by
  refine ⟨parseSeedToken_inv uuidParse, ?_⟩
  rintro ⟨u, a, p, hu, hp, rfl, port, id, hport, hid, rfl⟩
  rw [parseSeedToken_split uuidParse hu hp, hport, Option.bind_some, hid, Option.map_some]

/-! ## The loop -/

/-- The run lemma: from slots `nodes` within the cap, the loop fills the
next slots with the nodes of the accepted tokens, in order, and stops when
the cap is reached; a skipped token takes no slot. -/
theorem seedLoop_eq (nodes : List XsanSeedNode) (tokens : List (List Char))
    (h : nodes.length ≤ xsanMaxSeedNodes) :
    seedLoop uuidParse nodes tokens =
      (nodes ++ tokens.filterMap (parseSeedToken uuidParse)).take xsanMaxSeedNodes := by
  induction tokens generalizing nodes with
  | nil => rw [seedLoop, List.filterMap_nil, List.append_nil, List.take_of_length_le h]
  | cons token tokens ih =>
    rw [seedLoop]
    split_ifs with hlt
    · cases hparse : parseSeedToken uuidParse token with
      | some node =>
        have hlen : (nodes ++ [node]).length ≤ xsanMaxSeedNodes := by
          rw [List.length_append, List.length_singleton]
          omega
        dsimp only
        rw [ih (nodes ++ [node]) hlen, List.filterMap_cons_some hparse, List.append_assoc,
          List.singleton_append]
      | none =>
        dsimp only
        rw [ih nodes h, List.filterMap_cons_none hparse]
    · -- the cap is reached: the slots filled so far are the result
      have heq : nodes.length = xsanMaxSeedNodes := by omega
      rw [List.take_append_of_le_length heq.ge, List.take_of_length_le heq.le]

/-- The seed list of every string, once `xsan_strdup` succeeds: the nodes of
its accepted tokens, in order, at most `XSAN_MAX_SEED_NODES` of them. -/
theorem xsanConfigLoadSeedNodes_eq (s : List Char) :
    xsanConfigLoadSeedNodes uuidParse s true =
      some (((seedTokens s).filterMap (parseSeedToken uuidParse)).take xsanMaxSeedNodes) := by
  by_cases hs : s.length > 0
  · rw [xsanConfigLoadSeedNodes, if_pos hs, if_neg (by decide),
      seedLoop_eq uuidParse [] _ (Nat.zero_le _), List.nil_append]
  · -- the empty string has no token
    rw [xsanConfigLoadSeedNodes, if_neg hs, List.eq_nil_of_length_eq_zero (l := s) (by omega)]
    rfl

end Token

/-- The seed list `<U₁>@2001:db8::abcd:1:4420,<U₂>@no-such-host:80`, each
UUID accepted: the IPv6 address, 16 characters, is stored without its last
character, and the token whose address is a name takes a slot. -/
theorem seed_nodes_truncate_ipv6_address (uuidParse : List Char → Option ℕ) (id₁ id₂ : ℕ)
    (hu₁ : uuidParse "123e4567-e89b-12d3-a456-426614174000".toList = some id₁)
    (hu₂ : uuidParse "00112233-4455-6677-8899-aabbccddeeff".toList = some id₂) :
    xsanConfigLoadSeedNodes uuidParse
        ("123e4567-e89b-12d3-a456-426614174000@2001:db8::abcd:1:4420," ++
          "00112233-4455-6677-8899-aabbccddeeff@no-such-host:80").toList true =
      some [seedNode id₁ "2001:db8::abcd:1".toList 4420, seedNode id₂ "no-such-host".toList 80] ∧
    (seedNode id₁ "2001:db8::abcd:1".toList 4420).storageAddr.ip = "2001:db8::abcd:".toList := by
  have htokens : seedTokens ("123e4567-e89b-12d3-a456-426614174000@2001:db8::abcd:1:4420," ++
      "00112233-4455-6677-8899-aabbccddeeff@no-such-host:80").toList =
      ["123e4567-e89b-12d3-a456-426614174000".toList ++ '@' :: ("2001:db8::abcd:1".toList ++ ':' :: "4420".toList),
        "00112233-4455-6677-8899-aabbccddeeff".toList ++ '@' :: ("no-such-host".toList ++ ':' :: "80".toList)] := by
    decide
  have h₁ := parseSeedToken_split uuidParse (u := "123e4567-e89b-12d3-a456-426614174000".toList)
    (a := "2001:db8::abcd:1".toList) (p := "4420".toList) (by decide) (by decide)
  have h₂ := parseSeedToken_split uuidParse (u := "00112233-4455-6677-8899-aabbccddeeff".toList)
    (a := "no-such-host".toList) (p := "80".toList) (by decide) (by decide)
  rw [show seedPort "4420".toList = some 4420 by decide, Option.bind_some, hu₁, Option.map_some] at h₁
  rw [show seedPort "80".toList = some 80 by decide, Option.bind_some, hu₂, Option.map_some] at h₂
  refine ⟨?_, by rw [seedNode_ip]; decide⟩
  rw [xsanConfigLoadSeedNodes_eq, htokens, List.filterMap_cons_some h₁, List.filterMap_cons_some h₂,
    List.filterMap_nil]
  rfl

/-- With SPDK's parse of the two UUIDs. -/
theorem seed_nodes_truncate_ipv6_address_spdk :
    (Uuid.parse "123e4567-e89b-12d3-a456-426614174000".toList = some 0x123e4567e89b12d3a456426614174000 ∧
      Uuid.parse "00112233-4455-6677-8899-aabbccddeeff".toList = some 0x00112233445566778899aabbccddeeff) ∧
    xsanConfigLoadSeedNodes Uuid.parse
        ("123e4567-e89b-12d3-a456-426614174000@2001:db8::abcd:1:4420," ++
          "00112233-4455-6677-8899-aabbccddeeff@no-such-host:80").toList true =
      some [seedNode 0x123e4567e89b12d3a456426614174000 "2001:db8::abcd:1".toList 4420,
        seedNode 0x00112233445566778899aabbccddeeff "no-such-host".toList 80] ∧
    (seedNode 0x123e4567e89b12d3a456426614174000 "2001:db8::abcd:1".toList 4420).storageAddr.ip =
      "2001:db8::abcd:".toList :=
  ⟨⟨by decide, by decide⟩, seed_nodes_truncate_ipv6_address _ _ _ (by decide) (by decide)⟩

end Xsan
