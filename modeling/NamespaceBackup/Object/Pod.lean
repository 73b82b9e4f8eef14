import NamespaceBackup.Json.Shape
import NamespaceBackup.Object.Metadata

/-!
# Pods

Of a pod only the name is used, but a pod counts only if all its known fields look as version 1.32
of the core API says.

## Main definitions

* `Pod.spec`, `Pod.status`: what a pod looks like
* `Pod.name?`: the name that a pod goes by
-/

namespace NamespaceBackup.Pod

open Shape

variable {σ : Type} [Json.Source σ]

/-! ## Common parts -/

/-- A list of texts. -/
def texts : Shape σ := list text

/-- Texts by name. -/
def textDict : Shape σ := dict text

/-- A point in time. -/
def time : Shape σ := readableBy Timestamp.ofJson?

/-- Amounts of resources by name; an amount is a text. -/
def amounts : Shape σ := dict text

/-- A port by number or name. -/
def port : Shape σ := either int32 text

/-- An object known by its name. -/
def named : Shape σ := fields [("name", text)]

/-- Names with values. -/
def nameAndValue : Shape σ := fields (each ["name", "value"] text)

/-- A choice of labels. -/
def labelSelector : Shape σ :=
  fields [("matchExpressions",
      list (fields (each ["key", "operator"] text ++ [("values", texts)]))),
    ("matchLabels", textDict)]

/-- A key of a config map or secret. -/
def keySelector : Shape σ := fields (each ["key", "name"] text ++ [("optional", truth)])

/-- A config map or secret that may be missing. -/
def optionalName : Shape σ := fields [("name", text), ("optional", truth)]

/-- A field of an object. -/
def fieldSelector : Shape σ := fields (each ["apiVersion", "fieldPath"] text)

/-- A resource of a container. -/
def resourceSelector : Shape σ := fields (each ["containerName", "divisor", "resource"] text)

/-- What is claimed of resources. -/
def resources : Shape σ :=
  fields [("claims", list (fields (each ["name", "request"] text))), ("limits", amounts),
    ("requests", amounts)]

/-! ## Scheduling -/

/-- A choice of nodes. -/
def nodeTerm : Shape σ :=
  let requirements : Shape σ :=
    list (fields (each ["key", "operator"] text ++ [("values", texts)]))
  fields (each ["matchExpressions", "matchFields"] requirements)

/-- Which nodes a pod prefers or requires. -/
def nodeAffinity : Shape σ :=
  fields [
    ("preferredDuringSchedulingIgnoredDuringExecution",
      list (fields [("preference", nodeTerm), ("weight", int32)])),
    ("requiredDuringSchedulingIgnoredDuringExecution",
      fields [("nodeSelectorTerms", list nodeTerm)])]

/-- A choice of pods. -/
def podTerm : Shape σ :=
  fields <| each ["labelSelector", "namespaceSelector"] labelSelector ++
    each ["matchLabelKeys", "mismatchLabelKeys", "namespaces"] texts ++ [("topologyKey", text)]

/-- Which pods a pod wants to be near to, or far from. -/
def podAffinity : Shape σ :=
  fields [
    ("preferredDuringSchedulingIgnoredDuringExecution",
      list (fields [("podAffinityTerm", podTerm), ("weight", int32)])),
    ("requiredDuringSchedulingIgnoredDuringExecution", list podTerm)]

/-- Where a pod is placed. -/
def affinity : Shape σ :=
  fields (("nodeAffinity", nodeAffinity) :: each ["podAffinity", "podAntiAffinity"] podAffinity)

/-- A taint that a pod puts up with. -/
def toleration : Shape σ :=
  fields (each ["effect", "key", "operator", "value"] text ++ [("tolerationSeconds", int64)])

/-- How pods are spread over nodes. -/
def topologySpread : Shape σ :=
  fields <| each ["nodeAffinityPolicy", "nodeTaintsPolicy", "topologyKey", "whenUnsatisfiable"]
      text ++
    each ["maxSkew", "minDomains"] int32 ++
    [("labelSelector", labelSelector), ("matchLabelKeys", texts)]

/-! ## Security -/

/-- A profile by type, and by name on the node. -/
def profile : Shape σ := fields (each ["localhostProfile", "type"] text)

/-- Labels of a security policy. -/
def policyLabels : Shape σ := fields (each ["level", "role", "type", "user"] text)

/-- Options of pods that run on Windows. -/
def windowsOptions : Shape σ :=
  fields <| each ["gmsaCredentialSpec", "gmsaCredentialSpecName", "runAsUserName"] text ++
    [("hostProcess", truth)]

/-- The options of security that pods and containers share. -/
def sharedSecurity : List (String × Shape σ) :=
  each ["runAsGroup", "runAsUser"] int64 ++ each ["appArmorProfile", "seccompProfile"] profile ++
    [("runAsNonRoot", truth), ("seLinuxOptions", policyLabels), ("windowsOptions", windowsOptions)]

/-- What a container may do. -/
def containerSecurity : Shape σ :=
  fields <| sharedSecurity ++
    each ["allowPrivilegeEscalation", "privileged", "readOnlyRootFilesystem"] truth ++
    [("capabilities", fields (each ["add", "drop"] texts)), ("procMount", text)]

/-- What the containers of a pod may do. -/
def podSecurity : Shape σ :=
  fields <| sharedSecurity ++
    each ["fsGroupChangePolicy", "seLinuxChangePolicy", "supplementalGroupsPolicy"] text ++
    [("fsGroup", int64), ("supplementalGroups", list int64), ("sysctls", list nameAndValue)]

/-! ## Containers -/

/-- A command. -/
def execAction : Shape σ := fields [("command", texts)]

/-- A request over HTTP. -/
def httpAction : Shape σ :=
  fields <| each ["host", "path", "scheme"] text ++
    [("httpHeaders", list nameAndValue), ("port", port)]

/-- A connection. -/
def socketAction : Shape σ := fields [("host", text), ("port", port)]

/-- A question after the health of a container. -/
def probe : Shape σ :=
  fields <| each ["failureThreshold", "initialDelaySeconds", "periodSeconds", "successThreshold",
      "timeoutSeconds"] int32 ++
    [("exec", execAction), ("grpc", fields [("port", int32), ("service", text)]),
      ("httpGet", httpAction), ("tcpSocket", socketAction),
      ("terminationGracePeriodSeconds", int64)]

/-- What is done when a container starts or stops. -/
def handler : Shape σ :=
  fields [("exec", execAction), ("httpGet", httpAction), ("sleep", fields [("seconds", int64)]),
    ("tcpSocket", socketAction)]

/-- A variable of the environment. -/
def variableOf : Shape σ :=
  fields <| each ["name", "value"] text ++
    [("valueFrom", fields <| each ["configMapKeyRef", "secretKeyRef"] keySelector ++
      [("fieldRef", fieldSelector), ("resourceFieldRef", resourceSelector)])]

/-- Variables of the environment that come from elsewhere. -/
def variablesFrom : Shape σ :=
  fields (each ["configMapRef", "secretRef"] optionalName ++ [("prefix", text)])

/-- A port of a container. -/
def containerPort : Shape σ :=
  fields (each ["containerPort", "hostPort"] int32 ++ each ["hostIP", "name", "protocol"] text)

/-- Where a volume appears in a container. -/
def mount : Shape σ :=
  fields <| each ["mountPath", "mountPropagation", "name", "recursiveReadOnly", "subPath",
    "subPathExpr"] text ++ [("readOnly", truth)]

/-- The fields of a container. -/
def containerFields : List (String × Shape σ) :=
  each ["image", "imagePullPolicy", "name", "restartPolicy", "terminationMessagePath",
      "terminationMessagePolicy", "workingDir"] text ++
    each ["args", "command"] texts ++ each ["stdin", "stdinOnce", "tty"] truth ++
    each ["livenessProbe", "readinessProbe", "startupProbe"] probe ++
    [("env", list variableOf), ("envFrom", list variablesFrom),
      ("lifecycle", fields (each ["postStart", "preStop"] handler)),
      ("ports", list containerPort),
      ("resizePolicy", list (fields (each ["resourceName", "restartPolicy"] text))),
      ("resources", resources), ("securityContext", containerSecurity),
      ("volumeDevices", list (fields (each ["devicePath", "name"] text))),
      ("volumeMounts", list mount)]

/-- A container. -/
def container : Shape σ := fields containerFields

/-- A container that is added to a running pod. -/
def ephemeralContainer : Shape σ := fields (("targetContainerName", text) :: containerFields)

/-! ## Volumes -/

/-- Keys with the files that they become. -/
def keyFiles : Shape σ := list (fields (each ["key", "path"] text ++ [("mode", int32)]))

/-- Files that describe the pod. -/
def podFiles : Shape σ :=
  list <| fields [("fieldRef", fieldSelector), ("mode", int32), ("path", text),
    ("resourceFieldRef", resourceSelector)]

/-- A claim of storage. -/
def claim : Shape σ :=
  let source : List (String × Shape σ) := each ["apiGroup", "kind", "name"] text
  fields <| each ["storageClassName", "volumeAttributesClassName", "volumeMode", "volumeName"]
      text ++
    [("accessModes", texts), ("dataSource", fields source),
      ("dataSourceRef", fields (("namespace", text) :: source)),
      ("resources", fields (each ["limits", "requests"] amounts)), ("selector", labelSelector)]

/-- One of several sources of a volume. -/
def projection : Shape σ :=
  let keyed : Shape σ := fields [("items", keyFiles), ("name", text), ("optional", truth)]
  fields [
    ("clusterTrustBundle", fields <| each ["name", "path", "signerName"] text ++
      [("labelSelector", labelSelector), ("optional", truth)]),
    ("configMap", keyed), ("downwardAPI", fields [("items", podFiles)]), ("secret", keyed),
    ("serviceAccountToken",
      fields (each ["audience", "path"] text ++ [("expirationSeconds", int64)]))]

/-- Texts, a flag that forbids writing, and other fields. -/
def storage (names : List String) (others : List (String × Shape σ)) : Shape σ :=
  fields (each names text ++ [("readOnly", truth)] ++ others)

/-- A volume. -/
def volume : Shape σ :=
  let secretRef : String × Shape σ := ("secretRef", named)
  let defaultMode : String × Shape σ := ("defaultMode", int32)
  let optional : String × Shape σ := ("optional", truth)
  fields [
    ("name", text),
    ("awsElasticBlockStore", storage ["fsType", "volumeID"] [("partition", int32)]),
    ("azureDisk", storage ["cachingMode", "diskName", "diskURI", "fsType", "kind"] []),
    ("azureFile", storage ["secretName", "shareName"] []),
    ("cephfs", storage ["path", "secretFile", "user"] [("monitors", texts), secretRef]),
    ("cinder", storage ["fsType", "volumeID"] [secretRef]),
    ("configMap", fields [defaultMode, ("items", keyFiles), ("name", text), optional]),
    ("csi", storage ["driver", "fsType"]
      [("nodePublishSecretRef", named), ("volumeAttributes", textDict)]),
    ("downwardAPI", fields [defaultMode, ("items", podFiles)]),
    ("emptyDir", fields (each ["medium", "sizeLimit"] text)),
    ("ephemeral", fields [("volumeClaimTemplate",
      fields [("metadata", readableBy Metadata.ofJson?), ("spec", claim)])]),
    ("fc", storage ["fsType"] (("lun", int32) :: each ["targetWWNs", "wwids"] texts)),
    ("flexVolume", storage ["driver", "fsType"] [("options", textDict), secretRef]),
    ("flocker", fields (each ["datasetName", "datasetUUID"] text)),
    ("gcePersistentDisk", storage ["fsType", "pdName"] [("partition", int32)]),
    ("gitRepo", fields (each ["directory", "repository", "revision"] text)),
    ("glusterfs", storage ["endpoints", "path"] []),
    ("hostPath", fields (each ["path", "type"] text)),
    ("image", fields (each ["pullPolicy", "reference"] text)),
    ("iscsi", storage ["fsType", "initiatorName", "iqn", "iscsiInterface", "targetPortal"] <|
      each ["chapAuthDiscovery", "chapAuthSession"] truth ++
      [("lun", int32), ("portals", texts), secretRef]),
    ("nfs", storage ["path", "server"] []),
    ("persistentVolumeClaim", storage ["claimName"] []),
    ("photonPersistentDisk", fields (each ["fsType", "pdID"] text)),
    ("portworxVolume", storage ["fsType", "volumeID"] []),
    ("projected", fields [defaultMode, ("sources", list projection)]),
    ("quobyte", storage ["group", "registry", "tenant", "user", "volume"] []),
    ("rbd", storage ["fsType", "image", "keyring", "pool", "user"]
      [("monitors", texts), secretRef]),
    ("scaleIO", storage ["fsType", "gateway", "protectionDomain", "storageMode", "storagePool",
      "system", "volumeName"] [secretRef, ("sslEnabled", truth)]),
    ("secret", fields [defaultMode, ("items", keyFiles), optional, ("secretName", text)]),
    ("storageos", storage ["fsType", "volumeName", "volumeNamespace"] [secretRef]),
    ("vsphereVolume",
      fields (each ["fsType", "storagePolicyID", "storagePolicyName", "volumePath"] text))]

/-! ## The pod -/

/-- What a pod is to be. -/
def spec : Shape σ :=
  fields <| each ["dnsPolicy", "hostname", "nodeName", "preemptionPolicy", "priorityClassName",
      "restartPolicy", "runtimeClassName", "schedulerName", "serviceAccount",
      "serviceAccountName", "subdomain"] text ++
    each ["automountServiceAccountToken", "enableServiceLinks", "hostIPC", "hostNetwork",
      "hostPID", "hostUsers", "setHostnameAsFQDN", "shareProcessNamespace"] truth ++
    each ["activeDeadlineSeconds", "terminationGracePeriodSeconds"] int64 ++
    each ["containers", "initContainers"] (list container) ++
    [("affinity", affinity),
      ("dnsConfig",
        fields (each ["nameservers", "searches"] texts ++ [("options", list nameAndValue)])),
      ("ephemeralContainers", list ephemeralContainer),
      ("hostAliases", list (fields [("hostnames", texts), ("ip", text)])),
      ("imagePullSecrets", list named), ("nodeSelector", textDict), ("os", named),
      ("overhead", amounts), ("priority", int32),
      ("readinessGates", list (fields [("conditionType", text)])),
      ("resourceClaims", list <| fields <|
        each ["name", "resourceClaimName", "resourceClaimTemplateName"] text),
      ("resources", resources), ("schedulingGates", list named),
      ("securityContext", podSecurity), ("tolerations", list toleration),
      ("topologySpreadConstraints", list topologySpread), ("volumes", list volume)]

/-- What a container is doing. -/
def containerState : Shape σ :=
  fields [("running", fields [("startedAt", time)]),
    ("terminated", fields <| each ["containerID", "message", "reason"] text ++
      each ["exitCode", "signal"] int32 ++ each ["finishedAt", "startedAt"] time),
    ("waiting", fields (each ["message", "reason"] text))]

/-- How a container is. -/
def containerStatus : Shape σ :=
  fields <| each ["containerID", "image", "imageID", "name"] text ++
    each ["ready", "started"] truth ++ each ["lastState", "state"] containerState ++
    [("allocatedResources", amounts),
      ("allocatedResourcesStatus", list <| fields [("name", text),
        ("resources", list (fields (each ["health", "resourceID"] text)))]),
      ("resources", resources), ("restartCount", int32),
      ("user", fields [("linux",
        fields (each ["gid", "uid"] int64 ++ [("supplementalGroups", list int64)]))]),
      ("volumeMounts", list <| fields <|
        each ["mountPath", "name", "recursiveReadOnly"] text ++ [("readOnly", truth)])]

/-- How a pod is. -/
def status : Shape σ :=
  fields <| each ["hostIP", "message", "nominatedNodeName", "phase", "podIP", "qosClass",
      "reason", "resize"] text ++
    each ["containerStatuses", "ephemeralContainerStatuses", "initContainerStatuses"]
      (list containerStatus) ++
    each ["hostIPs", "podIPs"] (list (fields [("ip", text)])) ++
    [("conditions", list <| fields <| each ["message", "reason", "status", "type"] text ++
        each ["lastProbeTime", "lastTransitionTime"] time),
      ("resourceClaimStatuses", list (fields (each ["name", "resourceClaimName"] text))),
      ("startTime", time)]

/-- Reads the name that a pod goes by. -/
def name? (json : σ) : Option String := do
  let record ← Record.ofObject? json
  record.fixed "apiVersion" "v1"
  record.fixed "kind" "Pod"
  let metadata ← record.nullable "metadata" Metadata.ofJson?
  check (fields [("spec", spec), ("status", status)]) json
  pure (metadata.getD {}).anyName

end NamespaceBackup.Pod
