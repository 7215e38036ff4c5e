import MqttFileTransfer.Model.CTypes
import MqttFileTransfer.Model.CJson
import MqttFileTransfer.Model.Proc
import MqttFileTransfer.Model.Publish
import MqttFileTransfer.Model.SendFile
import MqttFileTransfer.Model.ProcessMsg
import MqttFileTransfer.Spec.Protocol
import MqttFileTransfer.Spec.Session
import MqttFileTransfer.Spec.Stream
import MqttFileTransfer.Spec.Digits
import MqttFileTransfer.Spec.Utf8
import MqttFileTransfer.Spec.Topic
import MqttFileTransfer.Spec.JsonText
import MqttFileTransfer.Spec.Handles
import MqttFileTransfer.Spec.Receiver
import MqttFileTransfer.Proofs.PublishFile
import MqttFileTransfer.Proofs.SendFile
import MqttFileTransfer.Proofs.Batch
import MqttFileTransfer.Proofs.Request
import MqttFileTransfer.Proofs.StableFile
import MqttFileTransfer.Proofs.PublishedBytes
import MqttFileTransfer.Proofs.Stream
import MqttFileTransfer.Proofs.Topic
import MqttFileTransfer.Proofs.Payload
import MqttFileTransfer.Proofs.Handles
import MqttFileTransfer.Proofs.Receiver
