/-
This file lists the settings of the program, with the options and variables that give them.
-/

import ContentMount.Mount.Config

namespace ContentMount.CommandLine

/-- The settings that take a value. -/
inductive Setting where
  | provider
  | mountPoint
  | remotePath
  | accessToken
  | bucket
  | endpoint
  | region
  deriving DecidableEq

namespace Setting

def all : List Setting :=
  [.provider, .mountPoint, .remotePath, .accessToken, .bucket, .endpoint, .region]

/-- The long name of the option. -/
def longName : Setting → String
  | .provider => "provider"
  | .mountPoint => "mount-point"
  | .remotePath => "remote-path"
  | .accessToken => "access-token"
  | .bucket => "bucket"
  | .endpoint => "endpoint-url"
  | .region => "region"

/-- The short name of the option. -/
def shortName? : Setting → Option Char
  | .provider => some 'p'
  | .mountPoint => some 'm'
  | .remotePath => some 'r'
  | _ => none

/-- What stands for the value in messages. -/
def valueName : Setting → String
  | .provider => "PROVIDER"
  | .mountPoint => "MOUNT_POINT"
  | .remotePath => "REMOTE_PATH"
  | .accessToken => "ACCESS_TOKEN"
  | .bucket => "BUCKET"
  | .endpoint => "ENDPOINT_URL"
  | .region => "REGION"

/-- The variable of the surroundings that gives the value when no option does. -/
def variableName : Setting → String
  | .provider => "CLOUDMOUNT_PROVIDER"
  | .mountPoint => "CLOUDMOUNT_MOUNT_POINT"
  | .remotePath => "CLOUDMOUNT_REMOTE_PATH"
  | .accessToken => "DROPBOX_ACCESS_TOKEN"
  | .bucket => "CLOUDMOUNT_BUCKET"
  | .endpoint => "CLOUDMOUNT_ENDPOINT_URL"
  | .region => "CLOUDMOUNT_REGION"

/-- What the setting is for. -/
def purpose : Setting → String
  | .provider => "Backend to mount (dropbox, s3)"
  | .mountPoint => "Path the remote tree is projected under"
  | .remotePath => "Remote folder to start from (\"\" or \"/\" for the store root)"
  | .accessToken => "Dropbox access token"
  | .bucket => "S3 bucket name"
  | .endpoint => "S3-compatible endpoint URL"
  | .region => "S3 region"

/-- The option with its value, as messages show it. -/
def shown (setting : Setting) : String :=
  "--" ++ setting.longName ++ " <" ++ setting.valueName ++ ">"

def ofLongName? (name : String) : Option Setting :=
  all.find? fun setting => setting.longName == name

def ofShortName? (name : Char) : Option Setting :=
  all.find? fun setting => setting.shortName? == some name

end Setting

/-- The values that were given for some settings. -/
abbrev Values : Type := List (Setting × String)

/-- A value given by an option, or else by the surroundings. -/
def valueOf (values : Values) (surroundings : String → Option String) (setting : Setting) :
    Option String :=
  values.lookup setting <|> surroundings setting.variableName

/-- The configuration that the values make. -/
def configOf (values : Values) (surroundings : String → Option String) : MountConfig :=
  let given := valueOf values surroundings
  let standard : MountConfig := {}
  { provider := (given .provider).getD standard.provider
    mountPoint := (given .mountPoint).getD standard.mountPoint
    remotePath := (given .remotePath).getD standard.remotePath
    accessToken := given .accessToken
    bucket := given .bucket
    endpoint := given .endpoint
    region := given .region }

end ContentMount.CommandLine
