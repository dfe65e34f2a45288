import WorkspaceClient.Certificate.Pem
import WorkspaceClient.Cluster.Address
import WorkspaceClient.Failure

/-
  This file defines kubeconfig files in JSON notation and
  the choice of a server and of credentials from them.

  A kubeconfig is read in JSON notation only. One in another
  notation of YAML is refused as malformed, whatever it says.

  Key definitions include:
    * `Kubeconfig`
    * `Kubeconfig.shape`
    * `Kubeconfig.load`
    * `Kubeconfig.Fault`
    * `Kubeconfig.Access`
    * `Kubeconfig.access`
-/

namespace WorkspaceClient

------------------------------------------------------------
-- Contents
------------------------------------------------------------

/- A server, and the authority that it is trusted by. -/
structure Kubeconfig.Server where
  url : Option String
  caFile : Option String
  caData : Option String
  deriving DecidableEq, Repr

/- The credentials of a user. -/
structure Kubeconfig.Credentials where
  username : Option String
  password : Option String
  token : Option String
  tokenFile : Option String
  certificateFile : Option String
  certificateData : Option String
  keyFile : Option String
  keyData : Option String
  deriving DecidableEq, Repr

/- Which server is used with which credentials. -/
structure Kubeconfig.Choice where
  cluster : Option String
  user : Option String
  deriving DecidableEq, Repr

/- An entry of a list with its name. -/
structure Kubeconfig.Named (α : Type) where
  name : Option String
  entry : Option α
  deriving DecidableEq, Repr

/- The servers, credentials and choices of a file. -/
structure Kubeconfig where
  clusters : List (Kubeconfig.Named Kubeconfig.Server)
  users : List (Kubeconfig.Named Kubeconfig.Credentials)
  contexts : List (Kubeconfig.Named Kubeconfig.Choice)
  current : Option String
  deriving DecidableEq, Repr

namespace Kubeconfig

/- The credentials of somebody who has none. -/
def Credentials.none : Credentials :=
  { username := .none
    password := .none
    token := .none
    tokenFile := .none
    certificateFile := .none
    certificateData := .none
    keyFile := .none
    keyData := .none }

/- The contents of an empty file. -/
def empty : Kubeconfig :=
  { clusters := []
    users := []
    contexts := []
    current := none }

------------------------------------------------------------
-- Reading
------------------------------------------------------------

/- A text that may be null. -/
def optionalText : Json.Decoder (Option String) :=
  .optional .string

/- A truth value that may be null, which is not used. -/
def unusedFlag
    {α : Type}
    (name : String) : Json.Field α :=
  .of name (.optional .bool) fun a _ => a

/- A text that may be null, which is not used. -/
def unusedText
    {α : Type}
    (name : String) : Json.Field α :=
  .of name optionalText fun a _ => a

/- How a server is read. -/
def serverShape : Json.Shape Server where
  title := "Cluster"
  initial := { url := none, caFile := none, caData := none }
  fields :=
    [ .of "server" optionalText fun a s =>
        { a with url := s },
      unusedFlag "insecure-skip-tls-verify",
      .of "certificate-authority" optionalText fun a s =>
        { a with caFile := s },
      .of "certificate-authority-data" optionalText
        fun a s => { a with caData := s },
      unusedText "proxy-url",
      unusedText "tls-server-name" ]

/- How credentials are read. -/
def credentialsShape : Json.Shape Credentials where
  title := "AuthInfo"
  initial := .none
  fields :=
    [ .of "username" optionalText fun a s =>
        { a with username := s },
      .of "password" optionalText fun a s =>
        { a with password := s },
      .of "token" optionalText fun a s =>
        { a with token := s },
      .of "tokenFile" optionalText fun a s =>
        { a with tokenFile := s },
      .of "client-certificate" optionalText fun a s =>
        { a with certificateFile := s },
      .of "client-certificate-data" optionalText fun a s =>
        { a with certificateData := s },
      .of "client-key" optionalText fun a s =>
        { a with keyFile := s },
      .of "client-key-data" optionalText fun a s =>
        { a with keyData := s } ]

/- How a choice is read. -/
def choiceShape : Json.Shape Choice where
  title := "Context"
  initial := { cluster := none, user := none }
  fields :=
    [ .of "cluster" .string fun a s =>
        { a with cluster := some s },
      .of "user" optionalText fun a s =>
        { a with user := s },
      unusedText "namespace" ]

/- How a named entry is read. -/
def namedShape
    {α : Type}
    (key : String)
    (d : Json.Decoder α) : Json.Shape (Named α) where
  title := "Named"
  initial := { name := none, entry := none }
  fields :=
    [ .of "name" .string fun a s =>
        { a with name := some s },
      .of key (.optional d) fun a e => { a with entry := e } ]

/- A list of named entries, which may be null. -/
def namedList
    {α : Type}
    (key : String)
    (d : Json.Decoder α) : Json.Decoder (List (Named α)) :=
  fun origin v =>
    (·.getD []) <$>
      (Json.Decoder.optional
        (.list (namedShape key d).decode)) origin v

/- How a kubeconfig is read. -/
def shape : Json.Shape Kubeconfig where
  title := "Kubeconfig"
  initial := empty
  fields :=
    [ .of "clusters"
        (namedList "cluster" serverShape.decode) fun a xs =>
          { a with clusters := xs },
      .of "users"
        (namedList "user" credentialsShape.decode) fun a xs =>
          { a with users := xs },
      .of "contexts"
        (namedList "context" choiceShape.decode) fun a xs =>
          { a with contexts := xs },
      .of "current-context" optionalText fun a s =>
        { a with current := s },
      unusedText "kind",
      unusedText "apiVersion" ]

/- Whether all entries have the members that they need. -/
def isComplete
    (k : Kubeconfig) : Bool :=
  k.clusters.all (·.name.isSome)
    && k.users.all (·.name.isSome)
    && k.contexts.all fun c =>
      c.name.isSome
        && c.entry.all fun choice => choice.cluster.isSome

------------------------------------------------------------
-- Faults
------------------------------------------------------------

/- The reasons why a kubeconfig gives no access. -/
inductive Fault where
  | noCurrentContext
  | unknownContext (name : String)
  | unknownCluster (name : String)
  | noUrl
  | badUrl
  | badCaEncoding (fault : Base64.Fault)
  | badCaFile (path : String) (fault : Files.Fault)
  | badCaBundle
  deriving DecidableEq, Repr

/- The text of a fault. -/
def Fault.message : Fault → String
  | noCurrentContext =>
      "failed to determine current context"
  | unknownContext name =>
      "failed to load current context: " ++ name
  | unknownCluster name =>
      "failed to load the cluster of context: " ++ name
  | noUrl =>
      "cluster url is missing on selected cluster"
  | badUrl =>
      "failed to parse cluster url"
  | badCaEncoding fault =>
      "failed to load certificate authority: "
        ++ "failed to decode base64 data: " ++ fault.message
  | badCaFile path fault =>
      "failed to load certificate authority: "
        ++ "failed to read file '" ++ Text.quoted path ++ "': "
        ++ fault.message
  | badCaBundle =>
      "failed to parse PEM-encoded certificates"

------------------------------------------------------------
-- Loading
------------------------------------------------------------

/- The failure of a kubeconfig that cannot be read. -/
def unreadable
    (path reason : String) : Failure :=
  .validation ("invalid kubeconfig " ++ path ++ ": " ++ reason)

/- The text of a kubeconfig does not denote a value. -/
def badNotation : String :=
  "failed to parse kubeconfig YAML"

/- The value of a kubeconfig is of the wrong type. -/
def badStructure : String :=
  "the structure of the parsed kubeconfig is invalid"

/- Whether a text is a single word, which is a value too. -/
def isWord
    (s : String) : Bool :=
  s.toList.all fun c => c.isAlphanum || c == ' ' || c == '-'

/- The kubeconfig that a text holds. -/
def ofText
    (path text : String) : Except Failure Kubeconfig :=
  let plain := Text.trim text
  if plain.isEmpty then
    .ok empty
  else
    match Json.parse? (Bytes.ofText text) with
    | none =>
        .error (unreadable path
          (if isWord plain then badStructure else badNotation))
    | some v =>
        match shape.decode .document v with
        | .ok k =>
            if k.isComplete then
              .ok k
            else
              .error (unreadable path badStructure)
        | .error _ => .error (unreadable path badStructure)

/- The kubeconfig in the file at a path. -/
def load
    (fs : Files)
    (path : String) : Except Failure Kubeconfig :=
  match fs.readText (Path.ofText path) with
  | .error fault =>
      .error (unreadable path
        ("failed to read kubeconfig: " ++ fault.message))
  | .ok text => ofText path text

------------------------------------------------------------
-- Access
------------------------------------------------------------

/-
  How a cluster is reached: its address, the header that
  carries the credentials, the authorities that it is
  trusted by if not those of the system, and the certificate
  and key of the client.
-/
structure Access where
  address : Cluster.Address
  authorization : Option String
  roots : Option (List Bytes)
  identity : Option Bytes
  deriving DecidableEq, Repr

/- A path below the directory of another path. -/
def besides
    (path file : String) : Path :=
  if file.startsWith "/" then
    Path.ofText file
  else
    (Path.ofText path).dropLast ++ Path.ofText file

/- The entry of a name. -/
def findNamed
    {α : Type}
    (name : String)
    (entries : List (Named α)) : Option α :=
  (entries.find? fun e => e.name == some name).bind (·.entry)

/- The bytes that are given as base64 or as a file. -/
def materialBytes?
    (fs : Files)
    (path : String)
    (data file : Option String) : Option Bytes :=
  match data, file with
  | some text, _ =>
      (Base64.decode (Bytes.ofText text)).toOption
  | none, some f => (fs.read (besides path f)).toOption
  | none, none => none

/- The certificate authorities of a server. -/
def authorities
    (fs : Files)
    (path : String)
    (server : Server) :
    Except Fault (Option (List Bytes)) := do
  let parse := fun bundle =>
    match Pem.contents? "CERTIFICATE" bundle with
    | some ders => .ok (some ders)
    | none => .error .badCaBundle
  match server.caData, server.caFile with
  | some text, _ =>
      match Base64.decode (Bytes.ofText text) with
      | .ok bundle => parse bundle
      | .error fault => throw (.badCaEncoding fault)
  | none, some f =>
      match fs.read (besides path f) with
      | .ok bundle => parse bundle
      | .error fault => throw (.badCaFile f fault)
  | none, none => return none

/- The header that carries credentials. -/
def authorization
    (fs : Files)
    (path : String)
    (c : Credentials) : Option String :=
  match c.username, c.password, c.token, c.tokenFile with
  | some user, some password, _, _ =>
      some ("Basic " ++ Base64.encode
        (Bytes.ofText (user ++ ":" ++ password)))
  | _, _, some token, _ => some ("Bearer " ++ token)
  | _, _, none, some f =>
      (fs.readText (besides path f)).toOption.map
        fun token => "Bearer " ++ Text.trim token
  | _, _, none, none => none

/- The certificate and key of a client, one after the other. -/
def identity
    (fs : Files)
    (path : String)
    (c : Credentials) : Option Bytes := do
  let key ← materialBytes? fs path c.keyData c.keyFile
  let certificate ← materialBytes? fs path
    c.certificateData c.certificateFile
  return key ++ [0x0A] ++ certificate

/-
  The access that a kubeconfig gives, in the context that is
  named or else in the current one.
-/
def access
    (k : Kubeconfig)
    (fs : Files)
    (path : String)
    (context : Option String) : Except Fault Access := do
  let some name := context <|> k.current
    | throw .noCurrentContext
  let some choice := findNamed name k.contexts
    | throw (.unknownContext name)
  let cluster := choice.cluster.getD ""
  let some server := findNamed cluster k.clusters
    | throw (.unknownCluster cluster)
  let credentials :=
    (choice.user.bind (findNamed · k.users)).getD .none
  let some url := server.url
    | throw .noUrl
  let some address := Cluster.Address.parse? url
    | throw .badUrl
  let roots ← authorities fs path server
  return {
    address
    authorization := authorization fs path credentials
    roots
    identity := identity fs path credentials }

/- Whether the material of an access can be used. -/
def Access.isUsable
    (a : Access) : Bool :=
  let identityIsUsable :=
    match a.identity with
    | none => true
    | some pem =>
        match Pem.contents? "CERTIFICATE" pem,
            Pem.contents? "RSA PRIVATE KEY" pem with
        | some (c :: cs), some (k :: _) =>
            (c :: cs).all Der.isCertificate && Der.isRsaKey k
        | _, _ => false
  identityIsUsable
    && (a.roots.getD []).all Der.isCertificate

end Kubeconfig
end WorkspaceClient
