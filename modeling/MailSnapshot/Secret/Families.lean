import MailSnapshot.Pattern.Build
import MailSnapshot.Text.Blank

/-! The families of secrets: the shapes of keys, tokens and credentials. -/

namespace MailSnapshot.Secret
open CharClass Pattern

/-- A kind of secret, known by its shape. -/
structure Family where
  name : String
  pattern : Pattern

def digit : CharClass := between '0' '9'

def capital : CharClass := between 'A' 'Z'

def letter : CharClass := anyCase (between 'a' 'z')

def letterOrDigit : CharClass := anyCase (either (between 'a' 'z') digit)

/-- A letter or a digit of ASCII, or one of the marks. -/
def asciiOr (marks : List Char) : CharClass :=
  either (either capital (between 'a' 'z')) (either digit (isOneOf marks))

/-- A letter or a digit without regard to case, or one of the marks. -/
def anyCaseOr (marks : List Char) : CharClass := either letterOrDigit (isOneOf marks)

def githubClassicToken : Family :=
  ⟨"github_classic_token", chain [wordAnyCase "ghp_", atLeast 36 letterOrDigit]⟩

def githubFineGrainedToken : Family :=
  ⟨"github_fine_grained_token", chain [wordAnyCase "github_pat_", atLeast 20 (anyCaseOr ['_'])]⟩

def slackToken : Family :=
  ⟨"slack_token", chain [wordAnyCase "xox", one (anyCase (isOneOf ['b', 'a', 'p', 'r', 's'])),
    word "-", atLeast 10 (anyCaseOr ['-'])]⟩

def openaiKey : Family :=
  ⟨"openai_key", chain [wordAnyCase "sk-", atLeast 20 letterOrDigit]⟩

def bearerToken : Family :=
  ⟨"bearer_token", chain [wordAnyCase "bearer", atLeast 1 Text.isBlank,
    atLeast 16 (anyCaseOr ['_', '-', '.', '/', '+', '='])]⟩

/-- The user and password in front of the host of an address. -/
def urlCredentials : Family :=
  let user : CharClass := outside (either Text.isBlank (isOneOf ['/', ':', '@']))
  let password : CharClass := outside (either Text.isBlank (isOneOf ['/', '@']))
  ⟨"url_credentials", chain [wordAnyCase "http", maybe (wordAnyCase "s"), word "://",
    atLeast 1 user, word ":", atLeast 1 password, word "@"]⟩

/-- A shell variable whose name tells that it holds a secret. -/
def secretEnvReference : Family :=
  ⟨"secret_env_reference", chain [word "$", one (either letter (isOneOf ['_'])),
    run (anyCaseOr ['_']),
    oneOf [wordAnyCase "secret", wordAnyCase "token", wordAnyCase "key", wordAnyCase "password"],
    run (anyCaseOr ['_'])]⟩

def jwt : Family :=
  let segment := atLeast 1 (asciiOr ['_', '-'])
  ⟨"jwt", chain [word "eyJ", segment, word ".", segment, word ".", segment]⟩

def awsAccessKeyId : Family :=
  ⟨"aws_access_key_id", chain [word "AKIA", times 16 (either capital digit)]⟩

/-- From the first line of a private key to the nearest last line. -/
def pemPrivateKey : Family :=
  let kind := run (either capital (isOneOf [' ']))
  ⟨"pem_private_key", chain [word "-----BEGIN", kind, word " PRIVATE KEY-----", shortRun any,
    word "-----END", kind, word " PRIVATE KEY-----"]⟩

def anthropicKey : Family :=
  ⟨"anthropic_key", chain [wordAnyCase "sk-ant-", atLeast 20 (anyCaseOr ['-'])]⟩

def gitlabToken : Family :=
  ⟨"gitlab_token", chain [word "glpat-", atLeast 20 (asciiOr ['-', '_'])]⟩

def slackAppToken : Family :=
  ⟨"slack_app_token", chain [wordAnyCase "xapp-", atLeast 10 (anyCaseOr ['-'])]⟩

def openaiProjectKey : Family :=
  ⟨"openai_project_key", chain [wordAnyCase "sk-proj-", atLeast 20 letterOrDigit]⟩

/-- The order matters: a wider family comes before one that would take a part of its secret. -/
def families : List Family :=
  [githubClassicToken, githubFineGrainedToken, slackToken, openaiKey, bearerToken, urlCredentials,
   secretEnvReference, jwt, awsAccessKeyId, pemPrivateKey, anthropicKey, gitlabToken,
   slackAppToken, openaiProjectKey]

end MailSnapshot.Secret
